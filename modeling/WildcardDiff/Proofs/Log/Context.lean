import WildcardDiff.Log.Journal
import Mathlib.Data.List.Forall2
import Mathlib.Data.List.Induction

/-!
# Contexts of records

The context of a record merges the contexts of all scopes around a call, the outermost
first, and then what the call adds itself. Every name stands once, where it first
appears, with the value that it was given last. The message of the record is the text of
the call with these pairs behind it.

What runs while a journal is kept is described by the calls that it makes: it leaves the
same scopes open as before, and adds the records of the calls.
-/

namespace WildcardDiff

namespace Named

/-- Named values that merge pairs. The names stand in the order in which they first
appear, and each has the value that it was given last. -/
structure Merges (named : Named α) (pairs : List (String × α)) : Prop where
  names : named.map Prod.fst = (pairs.map Prod.fst).eraseDups
  values : ∀ name, named.lookup name = pairs.reverse.lookup name

theorem map_fst_put (named : Named α) (name : String) (value : α) :
    (named.put name value).map Prod.fst =
      if name ∈ named.map Prod.fst then named.map Prod.fst
      else named.map Prod.fst ++ [name] := by
  induction named with
  | nil => rfl
  | cons pair named inductionHypothesis =>
      rw [put]
      by_cases same : pair.1 = name
      · simp [same]
      · have other : name ≠ pair.1 := Ne.symm same
        simp only [if_neg same, List.map_cons, inductionHypothesis, List.mem_cons,
          other, false_or]
        split <;> rfl

theorem lookup_cons (pair : String × α) (named : Named α) (name : String) :
    List.lookup name (pair :: named) = if name = pair.1 then some pair.2
      else named.lookup name := by
  rw [List.lookup_cons]
  by_cases same : name = pair.1
  · rw [if_pos same, beq_iff_eq.mpr same]
  · rw [if_neg same, beq_eq_false_iff_ne.mpr same]

theorem lookup_put (named : Named α) (name other : String) (value : α) :
    (named.put name value).lookup other =
      if other = name then some value else named.lookup other := by
  induction named with
  | nil => exact lookup_cons (name, value) [] other
  | cons pair named inductionHypothesis =>
      rw [put]
      by_cases same : pair.1 = name
      · rw [if_pos same, lookup_cons, lookup_cons, same]
        split <;> rfl
      · rw [if_neg same, lookup_cons, lookup_cons, inductionHypothesis]
        by_cases first : other = pair.1
        · rw [if_pos first, if_pos first, if_neg (first ▸ same)]
        · rw [if_neg first, if_neg first]

theorem ofPairs_concat (pairs : List (String × α)) (pair : String × α) :
    ofPairs (pairs ++ [pair]) = (ofPairs pairs).put pair.1 pair.2 :=
  List.foldl_concat _ _ _ _

/-- Setting pairs one after the other merges them. -/
theorem merges_ofPairs (pairs : List (String × α)) : (ofPairs pairs).Merges pairs := by
  induction pairs using List.reverseRecOn with
  | nil => exact ⟨rfl, fun _ => rfl⟩
  | append_singleton pairs pair inductionHypothesis =>
      rw [ofPairs_concat]
      constructor
      · rw [map_fst_put, inductionHypothesis.names, List.map_append,
          List.eraseDups_append]
        by_cases present : pair.1 ∈ pairs.map Prod.fst
        · simp [present, List.removeAll]
        · simp [present, List.removeAll, List.eraseDups_cons]
      · intro name
        rw [lookup_put, inductionHypothesis.values, List.reverse_append]
        exact (lookup_cons pair pairs.reverse name).symm

end Named

namespace Log

/-- A call that logs a message: the contexts of the scopes around it, the outermost
first, and what it is given. -/
structure Call where
  enclosing : List Context
  level : Level
  message : Text
  own : Context

/-- A record of a call. Its context merges the pairs of the scopes with those of the
call, and stands behind the message, unless it is empty. -/
structure Call.Tells (call : Call) (record : Record) : Prop where
  level : record.level = call.level
  context : record.context.Merges (call.enclosing.flatten ++ call.own)
  message : record.message = call.message ++
    if record.context.isEmpty then []
    else " | ".toList ++
      Text.join [' '] (record.context.map fun pair =>
        pair.1.toList ++ ['='] ++ pair.2.shown)

theorem withContext_eq (message : Text) (context : Context) :
    withContext message context = message ++
      if context.isEmpty then []
      else " | ".toList ++
        Text.join [' '] (context.map fun pair =>
          pair.1.toList ++ ['='] ++ pair.2.shown) := by
  unfold withContext
  split
  · exact (List.append_nil message).symm
  · exact List.append_assoc _ _ _

namespace Journal

variable {journal before between after : Journal} {calls : List Call}

/-- What happened between two journals left the scopes as they were, and added a record
for each of some calls. -/
structure Adds (before after : Journal) (calls : List Call) : Prop where
  scopes : after.scopes = before.scopes
  records : ∃ added,
  after.records = before.records ++ added ∧ List.Forall₂ Call.Tells calls added

theorem context_eq (journal : Journal) :
    journal.context = Named.ofPairs journal.scopes.flatten :=
  List.foldl_flatten.symm

theorem tells_record
    (journal : Journal)
    (level : Level)
    (message : Text)
    (own : Context) :
    Call.Tells ⟨journal.scopes, level, message, own⟩
      (journal.record level message own) := by
  have merged : journal.context.merge own =
      Named.ofPairs (journal.scopes.flatten ++ own) := by
    rw [context_eq]
    exact List.foldl_append.symm
  constructor
  · rfl
  · dsimp only [record]
    rw [merged]
    exact Named.merges_ofPairs _
  · exact withContext_eq message (journal.context.merge own)

theorem Adds.refl (journal : Journal) : journal.Adds journal [] :=
  ⟨rfl, [], (List.append_nil _).symm, .nil⟩

/-- Calls that depend on the open scopes are made as if they had been made at the
beginning. -/
theorem Adds.trans
    {more : List Context → List Call}
    (first : before.Adds between calls)
    (second : between.Adds after (more between.scopes)) :
    before.Adds after (calls ++ more before.scopes) := by
  rw [first.scopes] at second
  obtain ⟨sameFirst, added, eqFirst, tellsFirst⟩ := first
  obtain ⟨sameSecond, others, eqSecond, tellsSecond⟩ := second
  refine ⟨sameSecond.trans sameFirst, added ++ others, ?_, ?_⟩
  · rw [eqSecond, eqFirst, List.append_assoc]
  · exact List.rel_append tellsFirst tellsSecond

/-- Logging adds a record if the threshold lets it. -/
theorem adds_log
    (journal : Journal)
    (threshold level : Level)
    (message : Text)
    (own : Context) :
    journal.Adds (journal.log threshold level message own)
      (if level.reaches threshold then [⟨journal.scopes, level, message, own⟩]
        else []) := by
  unfold log
  split
  · exact ⟨rfl, _, rfl, .cons (tells_record journal level message own) .nil⟩
  · exact Adds.refl journal

/-- When a scope is closed, the scopes are as they were before it was opened. -/
theorem Adds.leave
    {context : Context}
    (inside : (before.enter context).Adds after calls) :
    before.Adds after.leave calls := by
  obtain ⟨same, added⟩ := inside
  refine ⟨?_, added⟩
  change after.scopes.dropLast = before.scopes
  rw [same]
  exact List.dropLast_concat

end Journal
end Log
end WildcardDiff
