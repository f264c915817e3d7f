import Mathlib

/-!
# The greatest items of a log by key

A log that is read once keeps, for each key, the item of the greatest stamp; of
equal stamps the last one read counts.
-/

namespace SsnConsole.KeyedMaximum

variable {Item Key Stamp : Type} [LinearOrder Stamp]
variable {key : Item → Key} {stamp : Item → Stamp}

/-- No item of the same key before this one has a greater stamp, and each behind it a lesser. -/
def LastGreatest
    (key : Item → Key)
    (stamp : Item → Stamp)
    (log : List Item)
    (item : Item) : Prop :=
  ∃ before after,
    log = before ++ item :: after ∧
      (∀ other ∈ before, key other = key item → stamp other ≤ stamp item) ∧
      ∀ other ∈ after, key other = key item → stamp other < stamp item

/-- The greatest item is one of the log. -/
theorem LastGreatest.mem
    {log : List Item}
    {item : Item}
    (greatest : LastGreatest key stamp log item) :
    item ∈ log := by
  obtain ⟨before, after, rfl, -⟩ := greatest
  exact List.mem_append_right before List.mem_cons_self

/-- No item of the key has a greater stamp. -/
theorem LastGreatest.le
    {log : List Item}
    {item other : Item}
    (greatest : LastGreatest key stamp log item)
    (member : other ∈ log)
    (same : key other = key item) :
    stamp other ≤ stamp item := by
  obtain ⟨before, after, rfl, noGreater, lesser⟩ := greatest
  rcases List.mem_append.mp member with early | late
  · exact noGreater other early same
  · rcases List.mem_cons.mp late with rfl | behind
    · exact le_refl _
    · exact (lesser other behind same).le

/-- An item that no item of its key exceeds is the greatest once it has been read. -/
theorem lastGreatest_concat
    {log : List Item}
    {item : Item}
    (noGreater : ∀ other ∈ log, key other = key item → stamp other ≤ stamp item) :
    LastGreatest key stamp (log ++ [item]) item :=
  ⟨log, [], rfl, noGreater, fun _ member => absurd member List.not_mem_nil⟩

/-- The greatest item remains so when an item of another key, or a lesser one, is read. -/
theorem LastGreatest.concat
    {log : List Item}
    {kept item : Item}
    (greatest : LastGreatest key stamp log kept)
    (lesser : key item = key kept → stamp item < stamp kept) :
    LastGreatest key stamp (log ++ [item]) kept := by
  obtain ⟨before, after, rfl, noGreater, behind⟩ := greatest
  refine ⟨before, after ++ [item], ?_, noGreater, ?_⟩
  · rw [List.append_assoc]
    rfl
  · intro other member same
    rcases List.mem_append.mp member with early | last
    · exact behind other early same
    · obtain rfl : other = item := List.mem_singleton.mp last
      exact lesser same

/-- Of two greatest items of a key, the one that is read first is the other one. -/
private theorem eq_of_read_first
    {after between later : List Item}
    {first second : Item}
    (log : first :: after = between ++ second :: later)
    (lesser : ∀ other ∈ after, key other = key first → stamp other < stamp first)
    (noLess : stamp first ≤ stamp second)
    (same : key second = key first) :
    first = second := by
  rcases List.cons_eq_append_iff.mp log with ⟨-, shape⟩ | ⟨others, -, shape⟩
  · exact (List.cons.inj shape).1.symm
  · have behind : second ∈ after := by
      rw [shape]
      exact List.mem_append_right others List.mem_cons_self
    exact absurd noLess (lesser second behind same).not_ge

/-- A key has one greatest item. -/
theorem LastGreatest.unique
    {log : List Item}
    {first second : Item}
    (firstGreatest : LastGreatest key stamp log first)
    (secondGreatest : LastGreatest key stamp log second)
    (same : key first = key second) :
    first = second := by
  have firstLe := secondGreatest.le firstGreatest.mem same
  have secondLe := firstGreatest.le secondGreatest.mem same.symm
  obtain ⟨before, after, rfl, -, lesser⟩ := firstGreatest
  obtain ⟨otherBefore, otherAfter, log, -, otherLesser⟩ := secondGreatest
  rcases List.append_eq_append_iff.mp log with ⟨between, -, shape⟩ | ⟨between, -, shape⟩
  · exact eq_of_read_first shape lesser firstLe same.symm
  · exact (eq_of_read_first shape otherLesser secondLe same).symm

end SsnConsole.KeyedMaximum
