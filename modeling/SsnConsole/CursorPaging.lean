import SsnConsole.StableIndex

/-!
# Paging through a changing store

A client reads an ordered store page by page and continues after the key of the
last row that it was given.  It misses nothing as long as the store only gains
rows beyond the client's cursor.
-/

namespace SsnConsole.CursorPaging

open Std
open SsnConsole.StableIndex

variable {κ γ : Type} [Ord κ]

/-- A key lies beyond a cursor; everything lies beyond no cursor. -/
def Beyond (cursor : Option κ) (key : κ) : Prop :=
  ∀ reached, cursor = some reached → compare reached key = .lt

instance (cursor : Option κ) (key : κ) : Decidable (Beyond cursor key) :=
  match cursor with
  | none => isTrue (by intro reached absent; cases absent)
  | some reached =>
      decidable_of_iff (compare reached key = .lt)
        ⟨fun beyond other same => by cases same; exact beyond, fun beyond => beyond reached rfl⟩

section Pages

variable [TransOrd κ]

/-- The rows beyond a cursor, in order. -/
def rowsAfter (rows : ExtTreeMap κ γ) (cursor : Option κ) : List (κ × γ) :=
  rows.toList.filter fun row => decide (Beyond cursor row.1)

/-- The first `limit` rows beyond a cursor. -/
def pageAfter (rows : ExtTreeMap κ γ) (cursor : Option κ) (limit : Nat) : List (κ × γ) :=
  (rowsAfter rows cursor).take limit

end Pages

/-- What a client has been given, and where it continues. -/
structure Client (κ γ : Type) where
  cursor : Option κ
  received : List (κ × γ)

/-- A client that has not asked yet. -/
def Client.new : Client κ γ :=
  ⟨none, []⟩

/-- A client that was given a page continues after its last row. -/
def Client.receive (client : Client κ γ) (page : List (κ × γ)) : Client κ γ where
  cursor := (page.getLast?.map Prod.fst).or client.cursor
  received := client.received ++ page

section Order

variable [TransOrd κ]

/-- Rows are listed with strictly increasing keys. -/
theorem rowsAfter_ordered
    (rows : ExtTreeMap κ γ)
    (cursor : Option κ) :
    (rowsAfter rows cursor).Pairwise fun early late => compare early.1 late.1 = .lt := by
  exact List.Pairwise.filter _ ExtTreeMap.ordered_keys_toList

/-- A key beyond the last row of a page is beyond the cursor that asked for it. -/
theorem beyond_trans
    {cursor : Option κ}
    {reached key : κ}
    (first : Beyond cursor reached)
    (second : Beyond (some reached) key) :
    Beyond cursor key := by
  intro origin same
  exact TransCmp.lt_trans (first origin same) (second reached rfl)

variable [LawfulEqOrd κ]

/-- The rows beyond a cursor are the stored ones. -/
theorem mem_rowsAfter
    {rows : ExtTreeMap κ γ}
    {cursor : Option κ}
    {row : κ × γ} :
    row ∈ rowsAfter rows cursor ↔ rows[row.1]? = some row.2 ∧ Beyond cursor row.1 := by
  unfold rowsAfter
  rw [List.mem_filter, decide_eq_true_eq]
  apply and_congr_left'
  exact ExtTreeMap.mem_toList_iff_getElem?_eq_some

omit [Ord κ] [TransOrd κ] [LawfulEqOrd κ] in
/-- The cursor after a page is its last key, or the old one if the page is empty. -/
theorem cursor_receive
    (client : Client κ γ)
    (page : List (κ × γ)) :
    (page = [] ∧ (client.receive page).cursor = client.cursor) ∨
      ∃ init last, page = init ++ [last] ∧ (client.receive page).cursor = some last.1 := by
  rcases List.eq_nil_or_concat page with rfl | ⟨init, last, rfl⟩
  · exact Or.inl ⟨rfl, rfl⟩
  · refine Or.inr ⟨init, last, List.concat_eq_append, ?_⟩
    simp [Client.receive]

end Order

section Polling

variable [TransOrd κ]

/-- A client has been given each row up to its cursor, in order. -/
structure CaughtUp (rows : ExtTreeMap κ γ) (client : Client κ γ) : Prop where
  ordered : client.received.Pairwise fun early late => compare early.1 late.1 = .lt
  reached : ∀ row ∈ client.received, ¬Beyond client.cursor row.1
  complete :
    ∀ key value, rows[key]? = some value → ¬Beyond client.cursor key →
      (key, value) ∈ client.received

/-- A new client is caught up. -/
theorem caughtUp_new
    (rows : ExtTreeMap κ γ) :
    CaughtUp rows Client.new where
  ordered := List.Pairwise.nil
  reached := by
    intro row member
    cases member
  complete := by
    intro key value _ notBeyond
    refine absurd ?_ notBeyond
    intro reached absent
    cases absent

/-- A store that only gains rows beyond the cursor leaves its client caught up. -/
theorem CaughtUp.gain
    {rows newRows : ExtTreeMap κ γ}
    {client : Client κ γ}
    (caughtUp : CaughtUp rows client)
    (gained :
      ∀ key value, newRows[key]? = some value →
        rows[key]? = some value ∨ Beyond client.cursor key) :
    CaughtUp newRows client where
  ordered := caughtUp.ordered
  reached := caughtUp.reached
  complete := by
    intro key value stored notBeyond
    rcases gained key value stored with old | beyond
    · exact caughtUp.complete key value old notBeyond
    · exact absurd beyond notBeyond

variable [LawfulEqOrd κ]

omit [LawfulEqOrd κ] in
/-- No row of an ordered page lies beyond its last one. -/
theorem not_beyond_last
    {page init : List (κ × γ)}
    {last row : κ × γ}
    (ordered : page.Pairwise fun early late => compare early.1 late.1 = .lt)
    (listed : page = init ++ [last])
    (member : row ∈ page) :
    ¬Beyond (some last.1) row.1 := by
  intro after
  have later : compare last.1 row.1 = .lt := after last.1 rfl
  rw [listed] at ordered member
  obtain ⟨-, -, before⟩ := List.pairwise_append.mp ordered
  rcases List.mem_append.mp member with inInit | isLast
  · have earlier := before row inInit last (List.mem_singleton_self last)
    exact absurd (TransCmp.lt_trans earlier later) (by simp)
  · rw [List.mem_singleton.mp isLast] at later
    exact absurd later (by simp)

/-- What a client was given comes before every row beyond its cursor. -/
theorem CaughtUp.before
    {rows : ExtTreeMap κ γ}
    {client : Client κ γ}
    (caughtUp : CaughtUp rows client)
    {old new : κ × γ}
    (given : old ∈ client.received)
    (beyond : Beyond client.cursor new.1) :
    compare old.1 new.1 = .lt := by
  by_contra notBefore
  apply caughtUp.reached old given
  intro cursorKey same
  have after := beyond cursorKey same
  cases order : compare old.1 new.1 with
  | lt => exact absurd order notBefore
  | eq =>
      rw [LawfulEqOrd.eq_of_compare order]
      exact after
  | gt =>
      exact TransCmp.lt_trans after (OrientedCmp.gt_iff_lt.mp order)

/-- A page brings a client up to the page's last row. -/
theorem CaughtUp.receive
    {rows : ExtTreeMap κ γ}
    {client : Client κ γ}
    (caughtUp : CaughtUp rows client)
    (limit : Nat) :
    CaughtUp rows (client.receive (pageAfter rows client.cursor limit)) := by
  have split := List.take_append_drop limit (rowsAfter rows client.cursor)
  have sorted := rowsAfter_ordered rows client.cursor
  rw [← split] at sorted
  obtain ⟨pageOrdered, _, pageBefore⟩ := List.pairwise_append.mp sorted
  have beyond (row : κ × γ) (member : row ∈ pageAfter rows client.cursor limit) :
      Beyond client.cursor row.1 :=
    (mem_rowsAfter.mp (List.mem_of_mem_take member)).2
  rcases cursor_receive client (pageAfter rows client.cursor limit) with
    ⟨empty, cursor⟩ | ⟨init, last, listed, cursor⟩
  · rw [empty] at cursor ⊢
    refine ⟨?_, ?_, ?_⟩
    · simpa [Client.receive] using caughtUp.ordered
    · intro row member
      rw [cursor]
      exact caughtUp.reached row (by simpa [Client.receive] using member)
    · intro key value stored notBeyond
      rw [cursor] at notBeyond
      simpa [Client.receive] using caughtUp.complete key value stored notBeyond
  · have lastMember : last ∈ pageAfter rows client.cursor limit := by simp [listed]
    refine ⟨?_, ?_, ?_⟩
    · show (client.received ++ pageAfter rows client.cursor limit).Pairwise _
      rw [List.pairwise_append]
      refine ⟨caughtUp.ordered, pageOrdered, ?_⟩
      intro old oldMember new newMember
      exact caughtUp.before oldMember (beyond new newMember)
    · intro row member
      rw [cursor]
      rcases List.mem_append.mp member with old | new
      · intro after
        exact caughtUp.reached row old (beyond_trans (beyond last lastMember) after)
      · exact not_beyond_last pageOrdered listed new
    · intro key value stored notBeyond
      rw [cursor] at notBeyond
      by_cases known : Beyond client.cursor key
      · have listedRow : (key, value) ∈ rowsAfter rows client.cursor :=
          mem_rowsAfter.mpr ⟨stored, known⟩
        rw [← split] at listedRow
        apply List.mem_append_right
        rcases List.mem_append.mp listedRow with inPage | later
        · exact inPage
        · refine absurd ?_ notBeyond
          intro reached same
          cases same
          exact pageBefore last lastMember (key, value) later
      · exact List.mem_append_left _ (caughtUp.complete key value stored known)

/-- When nothing lies beyond its cursor, a client was given every stored row exactly once. -/
theorem CaughtUp.count_eq_one
    [BEq κ]
    [LawfulBEq κ]
    {rows : ExtTreeMap κ γ}
    {client : Client κ γ}
    (caughtUp : CaughtUp rows client)
    {limit : Nat}
    (positive : 0 < limit)
    (finished : pageAfter rows client.cursor limit = [])
    {key : κ}
    {value : γ}
    (stored : rows[key]? = some value) :
    (key, value) ∈ client.received ∧ (client.received.map Prod.fst).count key = 1 := by
  have nothing : rowsAfter rows client.cursor = [] := by
    rcases List.take_eq_nil_iff.mp finished with noLimit | empty
    · omega
    · exact empty
  have notBeyond : ¬Beyond client.cursor key := by
    intro beyond
    have listed : (key, value) ∈ rowsAfter rows client.cursor :=
      mem_rowsAfter.mpr ⟨stored, beyond⟩
    rw [nothing] at listed
    cases listed
  have member := caughtUp.complete key value stored notBeyond
  refine ⟨member, List.count_eq_one_of_mem ?_ (List.mem_map.mpr ⟨_, member, rfl⟩)⟩
  rw [List.Nodup, List.pairwise_map]
  refine caughtUp.ordered.imp ?_
  intro early late ordered same
  rw [same] at ordered
  exact absurd ordered (by simp)

end Polling

end SsnConsole.CursorPaging
