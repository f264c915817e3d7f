import Mathlib

/-!
# Paging by offset

A list is cut into pages of one size, and a page is asked for by its number.
Where the page starts is a product of machine words, which is exact as long as
the number of rows fits in a word.
-/

namespace SsnConsole.OffsetPaging

variable {ρ σ : Type}

/-- The quotient, rounded up. -/
def divCeil (items limit : Nat) : Nat :=
  items / limit + if items % limit = 0 then 0 else 1

/-- How many pages a client may ask for; an empty list has one empty page. -/
def totalPages (items limit : Nat) : Nat :=
  max (divCeil items limit) 1

/-- A value, brought between two bounds. -/
def clamp (value lower upper : Nat) : Nat :=
  if value < lower then lower else if value > upper then upper else value

/-- The rows of a page; the first page has number one. -/
def pageOf (rows : List ρ) (limit page : Nat) : List ρ :=
  (rows.drop (limit * (page - 1))).take limit

/-- A number in a machine word. -/
def toWord (width value : Nat) : Nat :=
  value % 2 ^ width

/-- Where a page starts, computed in machine words that wrap around. -/
def wordOffset (width limit page : Nat) : Nat :=
  toWord width (toWord width limit * toWord width (toWord width page + (2 ^ width - 1)))

/-- The rows of a page, found in machine words. -/
def wordPage (width : Nat) (rows : List ρ) (limit page : Nat) : List ρ :=
  (rows.drop (wordOffset width limit page)).take (toWord width limit)

section Clamping

variable {value lower upper : Nat}

/-- A clamped value lies between its bounds. -/
theorem clamp_bounds
    (ordered : lower ≤ upper)
    (value : Nat) :
    lower ≤ clamp value lower upper ∧ clamp value lower upper ≤ upper := by
  unfold clamp
  split_ifs <;> omega

/-- A value between its bounds is not changed. -/
theorem clamp_eq_self
    (above : lower ≤ value)
    (below : value ≤ upper) :
    clamp value lower upper = value := by
  unfold clamp
  split_ifs <;> omega

/-- No value between the bounds is nearer than the clamped one. -/
theorem clamp_nearest
    {other : Nat}
    (above : lower ≤ other)
    (below : other ≤ upper) :
    Nat.dist value (clamp value lower upper) ≤ Nat.dist value other := by
  unfold clamp Nat.dist
  split_ifs <;> omega

end Clamping

section Pages

variable {items limit page : Nat}

/-- The pages have room for all rows. -/
theorem le_totalPages_mul
    (positive : 0 < limit) :
    items ≤ totalPages items limit * limit := by
  have quotient : limit * (items / limit) + items % limit = items := Nat.div_add_mod items limit
  have remainder : items % limit < limit := Nat.mod_lt items positive
  have enough : items ≤ divCeil items limit * limit := by
    unfold divCeil
    split_ifs with exact
    · rw [exact] at quotient
      rw [Nat.add_zero, Nat.mul_comm]
      exact quotient.ge
    · rw [Nat.add_mul, Nat.one_mul, Nat.mul_comm]
      omega
  exact enough.trans (Nat.mul_le_mul_right limit (le_max_left _ _))

/-- No page but the first starts at the end of the rows or beyond it. -/
theorem offset_lt
    (second : 1 < page)
    (last : page ≤ totalPages items limit) :
    limit * (page - 1) < items := by
  have quotient : limit * (items / limit) + items % limit = items := Nat.div_add_mod items limit
  have reached : page ≤ divCeil items limit := by
    rcases le_max_iff.mp last with reached | first
    · exact reached
    · omega
  unfold divCeil at reached
  split_ifs at reached with exact
  · have positive : 0 < limit := by
      rcases Nat.eq_zero_or_pos limit with rfl | positive
      · rw [Nat.div_zero] at reached
        omega
      · exact positive
    have before : limit * (page - 1) < limit * (items / limit) :=
      Nat.mul_lt_mul_of_pos_left (by omega) positive
    omega
  · have before : limit * (page - 1) ≤ limit * (items / limit) :=
      Nat.mul_le_mul_left limit (by omega)
    omega

/-- There are no more pages than rows, apart from the first page. -/
theorem totalPages_le
    (positive : 0 < limit) :
    totalPages items limit ≤ max items 1 := by
  rcases Nat.lt_or_ge 1 (totalPages items limit) with several | single
  · have start : limit * (totalPages items limit - 1) < items := offset_lt several le_rfl
    have pages : totalPages items limit - 1 ≤ limit * (totalPages items limit - 1) :=
      Nat.le_mul_of_pos_left _ positive
    omega
  · omega

/-- The first pages hold the first rows. -/
theorem flatMap_range_pageOf
    (rows : List ρ)
    (limit pages : Nat) :
    (List.range' 1 pages).flatMap (pageOf rows limit) = rows.take (limit * pages) := by
  induction pages with
  | zero => rfl
  | succ pages hypothesis =>
      have following :
          pageOf rows limit (1 + 1 * pages) = (rows.drop (limit * pages)).take limit := by
        unfold pageOf
        congr 3
        omega
      rw [List.range'_concat, List.flatMap_append, hypothesis, List.flatMap_singleton, following,
        Nat.mul_succ, List.take_add]

/-- All pages together hold every row, in order. -/
theorem flatMap_pages
    (rows : List ρ)
    (positive : 0 < limit) :
    (List.range' 1 (totalPages rows.length limit)).flatMap (pageOf rows limit) = rows := by
  rw [flatMap_range_pageOf]
  apply List.take_of_length_le
  rw [Nat.mul_comm]
  exact le_totalPages_mul positive

/-- A page of mapped rows holds the mapped rows of the page. -/
theorem pageOf_map
    (row : ρ → σ)
    (rows : List ρ)
    (limit page : Nat) :
    pageOf (rows.map row) limit page = (pageOf rows limit page).map row := by
  unfold pageOf
  rw [← List.map_drop, ← List.map_take]

end Pages

section Joins

variable {rows : List ρ} {joined : ρ → Option σ}

/-- Where every join succeeds, no row is left out. -/
theorem map_some_filterMap
    (complete : ∀ row ∈ rows, (joined row).isSome) :
    (rows.filterMap joined).map some = rows.map joined := by
  induction rows with
  | nil => rfl
  | cons row rest hypothesis =>
      obtain ⟨value, found⟩ := Option.isSome_iff_exists.mp (complete row List.mem_cons_self)
      have others : (rest.filterMap joined).map some = rest.map joined :=
        hypothesis fun other member => complete other (List.mem_cons_of_mem _ member)
      rw [List.filterMap_cons_some found, List.map_cons, List.map_cons, others, found]

/-- Where every join succeeds and keeps its row, the rows can be read back. -/
theorem map_filterMap_eq_self
    {row : σ → ρ}
    (complete : ∀ original ∈ rows, ∃ value, joined original = some value ∧ row value = original) :
    (rows.filterMap joined).map row = rows := by
  induction rows with
  | nil => rfl
  | cons original rest hypothesis =>
      obtain ⟨value, found, kept⟩ := complete original List.mem_cons_self
      have others : (rest.filterMap joined).map row = rest :=
        hypothesis fun other member => complete other (List.mem_cons_of_mem _ member)
      rw [List.filterMap_cons_some found, List.map_cons, others, kept]

/-- Where every join succeeds, it makes no difference whether rows are joined before they are
cut into pages. -/
theorem pageOf_filterMap
    (complete : ∀ row ∈ rows, (joined row).isSome)
    (limit page : Nat) :
    pageOf (rows.filterMap joined) limit page = (pageOf rows limit page).filterMap joined := by
  have pageComplete : ∀ row ∈ pageOf rows limit page, (joined row).isSome := by
    intro row member
    exact complete row (List.mem_of_mem_drop (List.mem_of_mem_take member))
  apply List.map_injective_iff.mpr (Option.some_injective σ)
  rw [← pageOf_map, map_some_filterMap complete, map_some_filterMap pageComplete, pageOf_map]

end Joins

section Words

variable {width limit page : Nat}

/-- A number that fits in a word is kept. -/
theorem toWord_eq_self
    {value : Nat}
    (fits : value < 2 ^ width) :
    toWord width value = value :=
  Nat.mod_eq_of_lt fits

/-- Nothing wraps around on the way to a page of rows whose number fits in a word. -/
theorem wordOffset_eq
    {items : Nat}
    (fits : items < 2 ^ width)
    (positive : 0 < limit)
    (size : limit < 2 ^ width)
    (first : 1 ≤ page)
    (last : page ≤ totalPages items limit) :
    wordOffset width limit page = limit * (page - 1) := by
  have number : page < 2 ^ width := by
    have few : totalPages items limit ≤ max items 1 := totalPages_le positive
    omega
  have before : toWord width (page + (2 ^ width - 1)) = page - 1 := by
    unfold toWord
    have shifted : page + (2 ^ width - 1) = page - 1 + 2 ^ width := by
      omega
    rw [shifted, Nat.add_mod_right, Nat.mod_eq_of_lt (by omega)]
  have offset : limit * (page - 1) < 2 ^ width := by
    rcases Nat.lt_or_ge 1 page with second | single
    · exact (offset_lt second last).trans fits
    · have start : page - 1 = 0 := by
        omega
      rw [start, Nat.mul_zero]
      omega
  unfold wordOffset
  rw [toWord_eq_self size, toWord_eq_self number, before, toWord_eq_self offset]

/-- A page is found where it is, if the number of rows fits in a word. -/
theorem wordPage_eq
    {rows : List ρ}
    (fits : rows.length < 2 ^ width)
    (positive : 0 < limit)
    (size : limit < 2 ^ width)
    (first : 1 ≤ page)
    (last : page ≤ totalPages rows.length limit) :
    wordPage width rows limit page = pageOf rows limit page := by
  unfold wordPage pageOf
  rw [wordOffset_eq fits positive size first last, toWord_eq_self size]

end Words

section StableMemory

/-- The width of `usize` in a wasm32 program. -/
def USIZE_BITS : Nat :=
  32

/-- What a memory manager can hand out: 32768 buckets of 128 pages of 64 KiB. -/
def STABLE_MEMORY_BYTES : Nat :=
  32768 * 128 * 65536

/-- Stored rows of more than 64 bytes are fewer than a `usize` can count. -/
theorem rows_lt_of_fits
    {rows bytes : Nat}
    (large : 64 < bytes)
    (fits : rows * bytes ≤ STABLE_MEMORY_BYTES) :
    rows < 2 ^ USIZE_BITS := by
  have least : rows * 65 ≤ rows * bytes := Nat.mul_le_mul_left rows large
  unfold STABLE_MEMORY_BYTES at fits
  unfold USIZE_BITS
  omega

end StableMemory

end SsnConsole.OffsetPaging
