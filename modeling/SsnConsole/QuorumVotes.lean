import Mathlib

/-!
# Votes of distinct electors

A fixed electorate votes one by one, each elector at most once.  Whatever the
order of the votes, those cast and the electors still standing out add up to the
electorate.
-/

namespace SsnConsole.QuorumVotes

variable {ν β : Type} [DecidableEq ν]

/-- How many electors have not voted. -/
def standing (electors : List ν) (votes : List (ν × β)) : Nat :=
  electors.countP fun elector => decide (elector ∉ votes.map Prod.fst)

/-- The votes of distinct electors. -/
structure Ballots (electors : List ν) (votes : List (ν × β)) : Prop where
  distinctElectors : electors.Nodup
  distinctVoters : (votes.map Prod.fst).Nodup
  entitled : ∀ voter ∈ votes.map Prod.fst, voter ∈ electors

namespace Ballots

variable {electors : List ν} {votes : List (ν × β)} {voter : ν} {vote : β}

omit [DecidableEq ν] in
/-- Nobody has voted at first. -/
theorem empty
    (distinct : electors.Nodup) :
    Ballots electors ([] : List (ν × β)) where
  distinctElectors := distinct
  distinctVoters := List.nodup_nil
  entitled := by simp

omit [DecidableEq ν] in
/-- An elector that has not voted may vote. -/
theorem cast
    (ballots : Ballots electors votes)
    (elector : voter ∈ electors)
    (fresh : voter ∉ votes.map Prod.fst) :
    Ballots electors (votes ++ [(voter, vote)]) where
  distinctElectors := ballots.distinctElectors
  distinctVoters := by
    rw [List.map_append, List.map_singleton]
    apply ballots.distinctVoters.append (List.nodup_singleton voter)
    rw [List.disjoint_singleton]
    exact fresh
  entitled := by
    intro other member
    rw [List.map_append, List.map_singleton] at member
    rcases List.mem_append.mp member with earlier | last
    · exact ballots.entitled other earlier
    · rw [List.mem_singleton.mp last]
      exact elector

/-- The votes cast and the electors standing out make up the electorate. -/
theorem length_add_standing
    (ballots : Ballots electors votes) :
    votes.length + standing electors votes = electors.length := by
  have voted :
      (electors.filter fun elector => decide (elector ∈ votes.map Prod.fst)).Perm
        (votes.map Prod.fst) := by
    apply (List.perm_ext_iff_of_nodup (ballots.distinctElectors.filter _)
      ballots.distinctVoters).mpr
    intro elector
    rw [List.mem_filter, decide_eq_true_eq]
    constructor
    · exact And.right
    · intro member
      exact ⟨ballots.entitled elector member, member⟩
  have counted :
      electors.countP (fun elector => decide (elector ∈ votes.map Prod.fst)) =
        votes.length := by
    rw [List.countP_eq_length_filter, voted.length_eq, List.length_map]
  have total :
      electors.length =
        electors.countP (fun elector => decide (elector ∈ votes.map Prod.fst)) +
          electors.countP fun elector =>
            decide ¬(decide (elector ∈ votes.map Prod.fst) = true) :=
    List.length_eq_countP_add_countP _
  rw [total, counted, standing]
  congr 1
  apply List.countP_congr
  simp

end Ballots

end SsnConsole.QuorumVotes
