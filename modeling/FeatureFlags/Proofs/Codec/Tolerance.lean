import FeatureFlags.Flag.Basic
import FeatureFlags.Proofs.Codec.Alternatives
import FeatureFlags.Proofs.Codec.Rules
import FeatureFlags.Proofs.Json.Tolerant

/-!
# Texts of flags and segments that differ in form only

A flag or a segment is still decoded to itself after any number of edits of its text: its members may come in
another order, members of unknown names may be added at every level, and an empty list may be left out, null or
empty (`decoded_after_edits`). What it cannot do without is its key and its version.

The members of a rule that it does not know are read in full, since its outcome may be among them. So the layout
of a rule lists the fields of the outcome beside its own.
-/

namespace FeatureFlags

open Json

namespace Json

namespace TolerantField

variable {α : Type} {f : Field α}

/-- A field whose value has no layout tolerates nothing but a new order of members. -/
theorem value (h : Tolerant .value f.read) : TolerantField .value f := .of_ne_list h nofun

/-- A field with a record in it tolerates edits of this record. -/
theorem record {layouts : List (String × Layout)} (h : Tolerant (.record layouts) f.read) :
    TolerantField (.record layouts) f :=
  .of_ne_list h nofun

end TolerantField

end Json

/-! ## Values -/

lemma Kind.tolerant_decoder : Tolerant .value Kind.decoder := Tolerant.string.map _

lemma Operator.tolerant_decoder : Tolerant .value Operator.decoder := Tolerant.string.map _

/-- Values of attributes tolerate a new order of their members. -/
lemma AttributeValue.tolerant_decoder : Tolerant .value AttributeValue.decoder := by
  rw [decoder_eq_map]
  exact Tolerant.value.map _

/-- Variations tolerate a new order of their members. -/
lemma FlagValue.tolerant_decoder : Tolerant .value FlagValue.decoder := by
  rw [decoder_eq_map]
  exact Tolerant.value.map _

/-! ## Clauses and rollouts -/

namespace Clause

/-- What is read off a clause. -/
def layouts : List (String × Layout) :=
  [("contextKind", .value), ("attribute", .value), ("negate", .value), ("op", .value),
    ("values", .list .value)]

/-- Clauses tolerate edits. -/
lemma tolerant_decoder : Tolerant (.record layouts) decoder :=
  .record layouts fields (by decide) ⟨rfl, .value (Kind.tolerant_decoder.optional nofun), rfl, .value .string,
    rfl, .value .bool, rfl, .value Operator.tolerant_decoder, rfl, .list _ AttributeValue.tolerant_decoder, trivial⟩ _

end Clause

namespace WeightedVariation

/-- What is read off a weighted variation. -/
def layouts : List (String × Layout) := [("variation", .value), ("weight", .value), ("untracked", .value)]

/-- Weighted variations tolerate edits. -/
lemma tolerant_decoder : Tolerant (.record layouts) decoder :=
  .record layouts fields (by decide) ⟨rfl, .value (.natural 64), rfl, .value .single, rfl, .value .bool, trivial⟩ _

end WeightedVariation

namespace Rollout

/-- What is read off a rollout. -/
def layouts : List (String × Layout) :=
  [("kind", .value), ("contextKind", .value), ("bucketBy", .value),
    ("variations", .list (.record WeightedVariation.layouts)), ("seed", .value)]

/-- Rollouts tolerate edits. -/
lemma tolerant_decoder : Tolerant (.record layouts) decoder :=
  .record layouts fields (by decide) ⟨rfl, .value ((Tolerant.string.optional nofun).map _), rfl,
    .value (Kind.tolerant_decoder.optional nofun), rfl, .value (Tolerant.string.optional nofun), rfl,
    .list _ WeightedVariation.tolerant_decoder, rfl, .value ((Tolerant.integer _ _).optional nofun), trivial⟩ _

end Rollout

namespace Outcome

/-- What is read off the members of an outcome. -/
def layouts : List (String × Layout) := [("variation", .value), ("rollout", .record Rollout.layouts)]

lemma tolerant_fields : Tolerant.OfFields layouts fields :=
  ⟨rfl, .value ((Tolerant.natural 64).optional nofun), rfl, .record (Rollout.tolerant_decoder.optional nofun),
    trivial⟩

/-- Outcomes tolerate edits. -/
lemma tolerant_decoder : Tolerant (.record layouts) decoder :=
  .record layouts fields (by decide) tolerant_fields _

end Outcome

/-! ## Rules -/

namespace FlagRule

/-- What is read off the members of a rule, apart from its outcome. -/
def ownLayouts : List (String × Layout) :=
  [("id", .value), ("clauses", .list (.record Clause.layouts)), ("trackEvents", .value)]

/-- What is read off a rule: the outcome is among its members. -/
def layouts : List (String × Layout) := ownLayouts ++ Outcome.layouts

lemma tolerant_fields : Tolerant.OfFields ownLayouts fields :=
  ⟨rfl, .value .string, rfl, .list _ Clause.tolerant_decoder, rfl, .value .bool, trivial⟩

/-- Rules tolerate edits, those of their outcome among them. -/
lemma tolerant_decoder : Tolerant (.record layouts) decoder := by
  have hnames : (Entries.names layouts).Nodup := by decide
  refine .object_keep (fun {room ms r} hdecode => ?_) (fun {room ms ms' r} hms hdecode => ?_)
    fun _ _ hdecode => by cases hdecode
  · obtain ⟨-, hdecode⟩ := enter_bind_eq_ok.mp hdecode
    obtain ⟨_, hread, -⟩ := bind_eq_ok.mp hdecode
    exact Tolerant.isSome_of_readMembers hread
  · obtain ⟨hroom, hothers⟩ := readThrough_of_decoder hms.names hdecode
    rw [← toOption_eq_some, decoder_ofTrees hroom hms.names hothers] at hdecode
    obtain ⟨row, hrow, hdecode⟩ := Option.bind_eq_some_iff.mp hdecode
    obtain ⟨outcome, houtcome, heq⟩ := Option.map_eq_some_iff.mp hdecode
    have hrow' := Tolerant.find hnames hms.revised hms.distinct tolerant_fields
      (fun _ hl => List.mem_append_left _ hl) hrow
    have houtcome' := Tolerant.find hnames hms.revised hms.distinct Outcome.tolerant_fields
      (fun _ hl => List.mem_append_right _ hl) houtcome
    rw [← toOption_eq_some, decoder_ofTrees hroom hms.names' (hms.others Revised.readThrough hothers), hrow',
      Option.bind_some, houtcome']
    exact congrArg some heq

end FlagRule

namespace SegmentRule

/-- What is read off a rule. -/
def layouts : List (String × Layout) :=
  [("id", .value), ("clauses", .list (.record Clause.layouts)), ("weight", .value), ("bucketBy", .value),
    ("rolloutContextKind", .value)]

/-- Rules of segments tolerate edits. -/
lemma tolerant_decoder : Tolerant (.record layouts) decoder :=
  .record layouts fields (by decide) ⟨rfl, .value (Tolerant.string.optional nofun), rfl,
    .list _ Clause.tolerant_decoder, rfl, .value (Tolerant.single.optional nofun), rfl,
    .value (Tolerant.string.optional nofun), rfl, .value (Kind.tolerant_decoder.optional nofun), trivial⟩ _

end SegmentRule

/-! ## Flags and segments -/

namespace Prerequisite

/-- What is read off a prerequisite. -/
def layouts : List (String × Layout) := [("key", .value), ("variation", .value)]

lemma tolerant_decoder : Tolerant (.record layouts) decoder :=
  .record layouts fields (by decide) ⟨rfl, .value .string, rfl, .value (.natural 64), trivial⟩ _

end Prerequisite

namespace Target

/-- What is read off a target. -/
def layouts : List (String × Layout) :=
  [("contextKind", .value), ("values", .list .value), ("variation", .value)]

lemma tolerant_decoder : Tolerant (.record layouts) decoder :=
  .record layouts fields (by decide) ⟨rfl, .value Kind.tolerant_decoder, rfl, .list _ .string, rfl,
    .value (.natural 64), trivial⟩ _

end Target

namespace ClientSideAvailability

/-- What is read off an availability. -/
def layouts : List (String × Layout) := [("usingMobileKey", .value), ("usingEnvironmentId", .value)]

lemma tolerant_decoder : Tolerant (.record layouts) decoder :=
  .record layouts fields (by decide) ⟨rfl, .value .bool, rfl, .value .bool, trivial⟩ _

end ClientSideAvailability

namespace MigrationSettings

/-- What is read off migration settings. -/
def layouts : List (String × Layout) := [("checkRatio", .value)]

lemma tolerant_decoder : Tolerant (.record layouts) decoder :=
  .record layouts fields (by decide) ⟨rfl, .value ((Tolerant.natural 32).optional nofun), trivial⟩ _

end MigrationSettings

namespace Flag

/-- What is read off a flag. -/
def layouts : List (String × Layout) :=
  [("key", .value), ("version", .value), ("on", .value), ("targets", .list (.record Target.layouts)),
    ("contextTargets", .list (.record Target.layouts)), ("rules", .list (.record FlagRule.layouts)),
    ("prerequisites", .list (.record Prerequisite.layouts)), ("fallthrough", .record Outcome.layouts),
    ("offVariation", .value), ("variations", .list .value), ("clientSide", .value),
    ("clientSideAvailability", .record ClientSideAvailability.layouts), ("salt", .value), ("trackEvents", .value),
    ("trackEventsFallthrough", .value), ("debugEventsUntilDate", .value), ("samplingRatio", .value),
    ("excludeFromSummaries", .value), ("migration", .record MigrationSettings.layouts), ("deleted", .value)]

/-- Flags tolerate edits at every level. -/
lemma tolerant_decoder : Tolerant (.record layouts) decoder :=
  .record layouts fields (by decide)
    ⟨rfl, .value .string, rfl, .value (.natural 64), rfl, .value .bool, rfl, .list _ Target.tolerant_decoder, rfl,
      .list _ Target.tolerant_decoder, rfl, .list _ FlagRule.tolerant_decoder, rfl,
      .list _ Prerequisite.tolerant_decoder, rfl, .record Outcome.tolerant_decoder, rfl,
      .value ((Tolerant.natural 64).optional nofun), rfl, .list _ FlagValue.tolerant_decoder, rfl, .value .bool, rfl,
      .record (ClientSideAvailability.tolerant_decoder.optional nofun), rfl, .value .string, rfl, .value .bool, rfl,
      .value .bool, rfl, .value ((Tolerant.natural 64).optional nofun), rfl,
      .value ((Tolerant.natural 32).optional nofun), rfl, .value .bool, rfl,
      .record (MigrationSettings.tolerant_decoder.optional nofun), rfl, .value .bool, trivial⟩ _

/-- A flag cannot do without its key and its version. -/
lemma requires_key_version : fields.Requires "key" ∧ fields.Requires "version" :=
  ⟨Or.inl ⟨rfl, rfl⟩, Or.inr (Or.inl ⟨rfl, rfl⟩)⟩

end Flag

namespace SegmentTarget

/-- What is read off a list of keys. -/
def layouts : List (String × Layout) := [("values", .list .value), ("contextKind", .value)]

lemma tolerant_decoder : Tolerant (.record layouts) decoder :=
  .record layouts fields (by decide) ⟨rfl, .list _ .string, rfl, .value Kind.tolerant_decoder, trivial⟩ _

end SegmentTarget

namespace Segment

/-- What is read off a segment. -/
def layouts : List (String × Layout) :=
  [("key", .value), ("version", .value), ("included", .list .value), ("excluded", .list .value),
    ("includedContexts", .list (.record SegmentTarget.layouts)),
    ("excludedContexts", .list (.record SegmentTarget.layouts)), ("rules", .list (.record SegmentRule.layouts)),
    ("salt", .value), ("unbounded", .value), ("unboundedContextKind", .value), ("generation", .value),
    ("deleted", .value)]

/-- Segments tolerate edits at every level. -/
lemma tolerant_decoder : Tolerant (.record layouts) decoder :=
  .record layouts fields (by decide)
    ⟨rfl, .value .string, rfl, .value (.natural 64), rfl, .list _ .string, rfl, .list _ .string, rfl,
      .list _ SegmentTarget.tolerant_decoder, rfl, .list _ SegmentTarget.tolerant_decoder, rfl,
      .list _ SegmentRule.tolerant_decoder, rfl, .value .string, rfl, .value .bool, rfl,
      .value (Kind.tolerant_decoder.optional nofun), rfl, .value ((Tolerant.integer _ _).optional nofun), rfl,
      .value .bool, trivial⟩ _

/-- A segment cannot do without its key and its version. -/
lemma requires_key_version : fields.Requires "key" ∧ fields.Requires "version" :=
  ⟨Or.inl ⟨rfl, rfl⟩, Or.inr (Or.inl ⟨rfl, rfl⟩)⟩

end Segment

/-- A text without repeated names that is decoded as a flag or as a segment is decoded to the same flag or
segment after any edits: members in another order, further members of unknown names, lists that are absent, null
or empty. Without its key or its version it is not decoded. -/
theorem decoded_after_edits {text text' : String} (hnames : (Tree.ofText text).1.DistinctNames) :
    (∀ f, Flag.decode text = .ok f → Edited (.record Flag.layouts) text text' → Flag.decode text' = .ok f) ∧
    (∀ s, Segment.decode text = .ok s → Edited (.record Segment.layouts) text text' →
      Segment.decode text' = .ok s) ∧
    (MemberRemoved "key" text text' ∨ MemberRemoved "version" text text' →
      (∃ e, Flag.decode text' = .error e) ∧ ∃ e, Segment.decode text' = .error e) := by
  refine ⟨fun f hf hedited => Flag.tolerant_decoder.run hnames hf hedited,
    fun s hs hedited => Segment.tolerant_decoder.run hnames hs hedited, ?_⟩
  rintro (hremoved | hremoved)
  · exact ⟨exists_error_of_removed (by decide) Flag.requires_key_version.1 Flag.ofRow hnames hremoved,
      exists_error_of_removed (by decide) Segment.requires_key_version.1 Segment.ofRow hnames hremoved⟩
  · exact ⟨exists_error_of_removed (by decide) Flag.requires_key_version.2 Flag.ofRow hnames hremoved,
      exists_error_of_removed (by decide) Segment.requires_key_version.2 Segment.ofRow hnames hremoved⟩

/-! ### An item with one rule

The text of this item is that of a flag and of a segment. -/

/-- The item as a generic value. -/
def ruledItem : Value :=
  .object [("key", .string "f"), ("version", .number (.integer 1)),
    ("rules", .array [.object [("variation", .number (.integer 0))]])]

/-- The same item: its key comes last, and its rule has a note and says that there are no clauses. -/
def annotatedItem : Value :=
  .object [("version", .number (.integer 1)),
    ("rules", .array [.object [("note", .array [.bool true]), ("variation", .number (.integer 0)),
      ("clauses", .null)]]),
    ("key", .string "f")]

/-- The item without its key. -/
def keylessItem : Value :=
  .object [("version", .number (.integer 1)),
    ("rules", .array [.object [("variation", .number (.integer 0))]])]

/-- The members of the item other than its key, given its rule. -/
def keylessMembers (rule : Tree) : List (Option String × Tree) :=
  [(some "version", .number (.integer 1)), (some "rules", .array (.ofTrees [rule]))]

/-- The tree of the item with its key last, given its rule. -/
def treeWithRule (rule : Tree) : Tree := .object (.ofList (keylessMembers rule ++ [(some "key", .string "f")]))

section Rule

variable {layouts ruleLayouts : List (String × Layout)}

/-- An edit of a rule is an edit of what the rule belongs to. -/
lemma edit_treeWithRule (hrules : Entries.get? "rules" layouts = some (.list (.record ruleLayouts)))
    {rule rule' : Tree} (h : Edit 126 (.record ruleLayouts) rule rule') :
    Edit nestingRoom (.record layouts) (treeWithRule rule) (treeWithRule rule') := by
  have hitem : Edit 127 (.list (.record ruleLayouts)) (.array (.ofTrees [rule])) (.array (.ofTrees [rule'])) :=
    @Edit.item 127 (.list (.record ruleLayouts)) [] [] rule rule' h
  have hlayout : ((Layout.record layouts).member? (some "rules")).getD .value = .list (.record ruleLayouts) :=
    congrArg (·.getD .value) hrules
  rw [← hlayout] at hitem
  exact @Edit.member nestingRoom (.record layouts) [(some "version", .number (.integer 1))]
    [(some "key", .string "f")] (some "rules") _ _ hitem

/-- The annotated item is made of the plain one by edits. -/
lemma edits_annotatedItem (hrules : Entries.get? "rules" layouts = some (.list (.record ruleLayouts)))
    (hclauses : Idle (Entries.get? "clauses" ruleLayouts) .null)
    (hnote : Entries.get? "note" ruleLayouts = none) :
    Relation.ReflTransGen (Edit nestingRoom (.record layouts)) (Tree.ofValue ruledItem)
      (Tree.ofValue annotatedItem) := by
  -- the key goes to the end, then the rule gets a list that is null and a member that is unknown
  have hlast : Edit nestingRoom (.record layouts)
      (.object (.ofList ((some "key", .string "f") ::
        keylessMembers (.object (.ofList [(some "variation", .number (.integer 0))])))))
      (treeWithRule (.object (.ofList [(some "variation", .number (.integer 0))]))) :=
    .reorder (List.perm_append_singleton _ _).symm
  have hnull : Edit 126 (.record ruleLayouts)
      (.object (.ofList [(some "variation", .number (.integer 0))]))
      (.object (.ofList [(some "variation", .number (.integer 0)), (some "clauses", .null)])) :=
    @Edit.insert 126 _ [(some "variation", .number (.integer 0))] [] "clauses" .null (by decide) hclauses rfl
  have hadded : Edit 126 (.record ruleLayouts)
      (.object (.ofList [(some "variation", .number (.integer 0)), (some "clauses", .null)]))
      (.object (.ofList [(some "note", .array (.ofTrees [.bool true])), (some "variation", .number (.integer 0)),
        (some "clauses", .null)])) := by
    have hidle : Idle ((Layout.record ruleLayouts).member? (some "note")) (.array (.ofTrees [.bool true])) := by
      rw [Layout.member?, Option.bind_some, hnote]
      trivial
    exact @Edit.insert 126 _ [] _ "note" _ (by decide) hidle rfl
  exact ((Relation.ReflTransGen.single hlast).tail (edit_treeWithRule hrules hnull)).tail
    (edit_treeWithRule hrules hadded)

end Rule

/-- What is written with integers only is read as it was written. -/
lemma ofText_document {v : Value} (h : ∀ n ∈ v.numbers, ∃ i : Int, n = .integer i ∧ -2 ^ 63 ≤ i ∧ i < 2 ^ 64) :
    Tree.ofText (Document.ofValue v).text = (Tree.ofValue v, true) :=
  (reads_ofValue h).ofText

/-- A note, an empty list and a new order change nothing; without a key nothing is decoded. -/
theorem decoded_after_edits_annotatedItem :
    (∃ f, Flag.decode (Document.ofValue ruledItem).text = .ok f ∧
      Flag.decode (Document.ofValue annotatedItem).text = .ok f) ∧
    (∃ s, Segment.decode (Document.ofValue ruledItem).text = .ok s ∧
      Segment.decode (Document.ofValue annotatedItem).text = .ok s) ∧
    (∃ e, Flag.decode (Document.ofValue keylessItem).text = .error e) ∧
    ∃ e, Segment.decode (Document.ofValue keylessItem).text = .error e := by
  have hruled : Tree.ofText (Document.ofValue ruledItem).text = (Tree.ofValue ruledItem, true) :=
    ofText_document (by simp [ruledItem, Value.numbers, Value.numbersOfMembers, Value.numbersOfItems])
  have hannotated : Tree.ofText (Document.ofValue annotatedItem).text = (Tree.ofValue annotatedItem, true) :=
    ofText_document (by simp [annotatedItem, Value.numbers, Value.numbersOfMembers, Value.numbersOfItems])
  have hkeyless : Tree.ofText (Document.ofValue keylessItem).text = (Tree.ofValue keylessItem, true) :=
    ofText_document (by simp [keylessItem, Value.numbers, Value.numbersOfMembers, Value.numbersOfItems])
  -- no name comes twice in the original
  have hnames : (Tree.ofText (Document.ofValue ruledItem).text).1.DistinctNames := by
    rw [hruled]
    simp [ruledItem, Tree.ofValue, Items.ofValues, Members.ofEntries, Tree.DistinctNames, Items.DistinctNames,
      Members.DistinctNames, Members.names]
  obtain ⟨f, hf⟩ : ∃ f, Flag.decoder nestingRoom (Tree.ofValue ruledItem) = .ok f := ⟨_, rfl⟩
  obtain ⟨s, hs⟩ : ∃ s, Segment.decoder nestingRoom (Tree.ofValue ruledItem) = .ok s := ⟨_, rfl⟩
  have hflag : Flag.decode (Document.ofValue ruledItem).text = .ok f := (run_eq_ok_iff hruled).mpr hf
  have hsegment : Segment.decode (Document.ofValue ruledItem).text = .ok s := (run_eq_ok_iff hruled).mpr hs
  refine ⟨⟨f, hflag, ?_⟩, ⟨s, hsegment, ?_⟩, ?_⟩
  · exact (decoded_after_edits hnames).1 f hflag
      ⟨_, _, hruled, hannotated, edits_annotatedItem rfl (.inl rfl) rfl⟩
  · exact (decoded_after_edits hnames).2.1 s hsegment
      ⟨_, _, hruled, hannotated, edits_annotatedItem rfl (.inl rfl) rfl⟩
  · exact (decoded_after_edits hnames).2.2
      (.inl ⟨[], .string "f", keylessMembers _, hruled, hkeyless⟩)

end FeatureFlags
