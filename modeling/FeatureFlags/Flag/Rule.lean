import FeatureFlags.Clause.Basic
import FeatureFlags.Rollout

/-!
# Rules of flags

A rule serves its outcome to the contexts for which all of its clauses hold. In JSON the members of the
outcome stand among the members of the rule. Since they may come anywhere, members that the rule itself
does not know are all read and kept until the rule is closed, and the outcome is then taken from them.
-/

namespace FeatureFlags

/-- A rule of a flag. -/
structure FlagRule where
  id : String
  clauses : List Clause
  outcome : Outcome
  trackEvents : Bool
  deriving Repr

namespace FlagRule

open Json

/-- The fields of a rule, apart from those of its outcome. -/
def fields : Fields [String, List Clause, Bool] :=
  .cons (.withDefault "id" "" Decoder.string) <|
  .cons (.list "clauses" Clause.decoder) <|
  .cons (.flag "trackEvents") <|
  .nil

/-- Reads a member that the rule does not know in full and keeps it. -/
def keepMember (room : Nat) (kept : List (String × Tree)) (name : String) (value : Tree) :
    Except DecodeError (List (String × Tree)) := do
  value.readThrough room
  return kept ++ [(name, value)]

/-- The members of an object with these entries. -/
def membersOf : List (String × Tree) → Members
  | [] => .closed
  | (name, value) :: rest => .member (some name) value (membersOf rest)

/-- Takes an outcome from members that have been read already. -/
def outcomeOf (room : Nat) (kept : List (String × Tree)) : Except DecodeError Outcome :=
  match Outcome.fields.decodeMembers room (membersOf kept) with
  | .ok row => .ok (Outcome.ofRow row)
  | .error _ => .error .mismatch

/-- Decodes a rule. -/
def decoder : Decoder FlagRule := fun room t =>
  match t with
  | .object members => do
    let room ← enter room
    let (kept, slots) ← fields.readMembers (keepMember room) room [] (Slots.empty _) members
    let (id, clauses, trackEvents, ()) ← fields.finish slots
    return ⟨id, clauses, ← outcomeOf room kept, trackEvents⟩
  | t => .error t.mismatch

/-- The document of a rule. -/
def document (r : FlagRule) : Document :=
  .object <| (if r.id.isEmpty then [] else [("id", .string r.id)]) ++
    [("clauses", .array (r.clauses.map Clause.document))] ++ r.outcome.members ++
    Document.memberIfTrue "trackEvents" r.trackEvents

/-- Whether two rules are equal. -/
def same (a b : FlagRule) : Bool :=
  a.id == b.id && sameList Clause.same a.clauses b.clauses && a.outcome.same b.outcome &&
    a.trackEvents == b.trackEvents

end FlagRule
end FeatureFlags
