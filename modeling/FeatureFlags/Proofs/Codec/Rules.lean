import FeatureFlags.Flag.Rule
import FeatureFlags.Proofs.Codec.Values
import FeatureFlags.Segment.Basic

/-!
# Codecs of rules

The codecs of clauses, rollouts, outcomes and rules.
-/

namespace FeatureFlags

open Json

/-! ## Equality of lists and options -/

section Same

variable {α : Type} [DecidableEq α]

lemma sameList_beq (as bs : List α) : sameList (· == ·) as bs = (as == bs) := by
  induction as generalizing bs with
  | nil => cases bs <;> rfl
  | cons a as ih =>
    cases bs with
    | nil => rfl
    | cons b bs => rw [sameList, ih]; rfl

lemma sameOption_beq (a b : Option α) : sameOption (· == ·) a b = (a == b) := by
  cases a <;> cases b <;> rfl

end Same

/-! ## Members that may be left out -/

/-- An optional member is written if there is one. -/
lemma member?_eq {α : Type} (name : String) (write : α → Document) (o : Option α) :
    Document.member? name write o = ((o.map write).map (name, ·)).toList := by
  cases o <;> rfl

/-- A member that is written only if it is true. -/
lemma memberIfTrue_eq (name : String) (b : Bool) : Document.memberIfTrue name b =
    ((if !b then none else some (Document.bool b)).map (name, ·)).toList := by
  cases b <;> rfl

/-- A member that is left out under some condition. -/
lemma memberUnless_eq (name : String) (d : Document) (skip : Bool) :
    (if skip then [] else [(name, d)]) = ((if skip then none else some d).map (name, ·)).toList := by
  cases skip <;> rfl

/-! ## Scalars -/

/-- The codec of kinds in flag data. -/
def Kind.codec : Codec Kind := .ofString Kind.mk Kind.name fun _ => rfl

lemma Kind.decoder_null_ne (room : Nat) (k : Kind) : codec.decoder room .null ≠ .ok k := nofun

/-- The name of an operator is the one that it was read from, known or unknown. -/
lemma Operator.name_ofName (s : String) : (Operator.ofName s).name = s := by
  rw [Operator.ofName]
  cases h : Operator.named.find? (·.name == s) with
  | none => rfl
  | some op => simpa using List.find?_some h

/-- The codec of operators. -/
def Operator.codec : Codec Operator :=
  .ofString Operator.ofName Operator.name fun s => congrArg Operator.ofName (Operator.name_ofName s)

/-- The codec of weights. -/
def Weight.codec : Codec Single where
  decoder := Decoder.single
  document := .exactSingle
  same := Binary.eq
  Legible w := Recovers (fun n => w.eq n.toSingle) (.exactSingle w)
  depth := 0
  restores {_ _ _} _ _ hlegible := by
    obtain ⟨n, hreads, hsame⟩ := hlegible
    exact ⟨.number n, n.toSingle, hreads, rfl, rfl, hsame⟩

/-- The codec of signed integers. -/
def signed64Codec : Codec Int := .integer (-2 ^ (63 : Nat)) (2 ^ (63 : Nat) - 1) (by decide) (by decide)

lemma signed64Codec_null_ne (room : Nat) (i : Int) : signed64Codec.decoder room .null ≠ .ok i := nofun

/-- A reference keeps its text, whether it is read as a path or not. -/
lemma Reference.text_ofAttribute (text : String) (namesKind : Bool) :
    (Reference.ofAttribute text namesKind).text = text := by
  cases namesKind <;> rfl

/-! ## Clauses -/

namespace Clause

/-- The codecs of the fields of a clause. -/
def codecs : Codecs [Option Kind, String, Bool, Operator, List AttributeValue] :=
  .cons (.optionalMember "contextKind" Kind.codec Kind.decoder_null_ne) <|
  .cons (.withDefault "attribute" "" .string Codec.exists_decoder_string_eq_empty) <|
  .cons (.flag "negate") <|
  .cons (.withDefault "op" (.unknown "") Operator.codec fun _ _ => ⟨.string "", rfl⟩) <|
  .cons (.list "values" AttributeValue.codec) <|
  .nil

/-- The values of the fields of a clause. -/
def row (c : Clause) : Row [Option Kind, String, Bool, Operator, List AttributeValue] :=
  (c.contextKind, c.reference.text, c.negate, c.op, c.values, ())

/-- The values of a clause are written one by one. -/
lemma documents_eq (values : List AttributeValue) :
    AttributeValue.documents values = values.map AttributeValue.document := by
  induction values with
  | nil => rfl
  | cons v rest ih => rw [AttributeValue.documents, ih]; rfl

/-- Lists of values are compared item by item. -/
lemma sameItems_eq (as bs : List AttributeValue) :
    AttributeValue.sameItems as bs = sameList AttributeValue.same as bs := by
  induction as generalizing bs with
  | nil => cases bs <;> rfl
  | cons a as ih =>
    cases bs with
    | nil => rfl
    | cons b bs => rw [AttributeValue.sameItems, sameList, ih]

/-- A clause is written field by field. -/
lemma document_eq (c : Clause) : c.document = .object (codecs.members c.row) := by
  rw [document, member?_eq, documents_eq]
  rfl

/-- The row of a clause is the one that it was made of. -/
lemma row_ofRow (r : Row [Option Kind, String, Bool, Operator, List AttributeValue]) :
    (ofRow r).row = r := by
  obtain ⟨kind, text, negate, op, values, ⟨⟩⟩ := r
  rw [ofRow, row, Reference.text_ofAttribute]

/-- Of clauses with the same kind and the same text, the attribute is read in the same way. -/
lemma same_of_codecs {r r' : Row [Option Kind, String, Bool, Operator, List AttributeValue]}
    (h : codecs.same r r' = true) : (ofRow r).same (ofRow r') = true := by
  obtain ⟨kind, text, negate, op, values, ⟨⟩⟩ := r
  obtain ⟨kind', text', negate', op', values', ⟨⟩⟩ := r'
  simp only [codecs, Kind.codec, Operator.codec, Codecs.same, FieldCodec.same_optionalMember,
    FieldCodec.same_withDefault, FieldCodec.same_flag, FieldCodec.same_list, Codec.same_ofString,
    Codec.same_string, sameOption_beq, Bool.and_eq_true, beq_iff_eq, Bool.and_true] at h
  obtain ⟨rfl, rfl, rfl, rfl, hvalues⟩ := h
  simp only [same, ofRow, sameItems_eq, beq_self_eq_true, Bool.true_and]
  exact hvalues

/-- The codec of clauses. -/
def codec : Codec Clause :=
  .record codecs ofRow row document same (by decide) document_eq row_ofRow same_of_codecs

@[simp] lemma same_codec : codec.same = same := rfl

end Clause

/-! ## Rollouts -/

namespace WeightedVariation

/-- The codecs of the fields of a weighted variation. -/
def codecs : Codecs [Nat, Single, Bool] :=
  .cons (.required "variation" .natural64) <|
  .cons (.required "weight" Weight.codec) <|
  .cons (.flagIfTrue "untracked") <|
  .nil

/-- The values of the fields of a weighted variation. -/
def row (v : WeightedVariation) : Row [Nat, Single, Bool] := (v.variation, v.weight, v.untracked, ())

/-- A weighted variation is written field by field. -/
lemma document_eq (v : WeightedVariation) : v.document = .object (codecs.members v.row) := by
  rw [document, memberIfTrue_eq]
  simp only [codecs, Codecs.members, row, List.append_nil]
  rfl

/-- The codec of weighted variations. -/
def codec : Codec WeightedVariation :=
  .record codecs (fun (variation, weight, untracked, ()) => ⟨variation, weight, untracked⟩) row document same
    (by decide) document_eq (fun _ => rfl) fun {r r'} h => by
      obtain ⟨variation, weight, untracked, ⟨⟩⟩ := r
      obtain ⟨variation', weight', untracked', ⟨⟩⟩ := r'
      simp only [codecs, Codecs.same, FieldCodec.same_required, FieldCodec.same_flagIfTrue,
        Codec.same_natural64, Bool.and_true] at h
      rw [same, Bool.and_assoc]
      exact h

@[simp] lemma same_codec : codec.same = same := rfl

end WeightedVariation

namespace Rollout

/-- The types of the fields of a rollout. -/
abbrev FieldTypes : List Type :=
  [Bool, Option Kind, Option String, List WeightedVariation, Option Int]

/-- The codec of the kind of a rollout. -/
def kindCodec : Codec Bool :=
  .scalar kindDecoder (fun b => .string (if b then "experiment" else "rollout"))
    (fun b => .string (if b then "experiment" else "rollout")) (fun _ => reads_string _) (fun _ _ => rfl)
    fun {_ _ b} _ => by cases b <;> rfl

lemma same_kindCodec : kindCodec.same = (· == ·) := rfl

/-- The codecs of the fields of a rollout. -/
def codecs : Codecs FieldTypes :=
  .cons (.unlessDefault "kind" false kindCodec not FieldCodec.not_iff_eq_false (by decide)) <|
  .cons (.optionalMember "contextKind" Kind.codec Kind.decoder_null_ne) <|
  .cons (.optionalMember "bucketBy" .string Codec.decoder_string_null_ne) <|
  .cons (.list "variations" WeightedVariation.codec) <|
  .cons (.optionalMember "seed" signed64Codec signed64Codec_null_ne) <|
  .nil

/-- The values of the fields of a rollout. -/
def row (r : Rollout) : Row FieldTypes :=
  (r.experiment, r.contextKind, r.bucketBy.map (·.text), r.variations, r.seed, ())

/-- A rollout is written field by field. -/
lemma document_eq (r : Rollout) : r.document = .object (codecs.members r.row) := by
  have hkind : (if r.experiment then [("kind", Document.string "experiment")] else []) =
      ((if !r.experiment then none else some (Document.string "experiment")).map ("kind", ·)).toList := by
    cases r.experiment <;> rfl
  rw [document, hkind, member?_eq, member?_eq, member?_eq]
  simp only [codecs, Codecs.members, row, List.append_nil, List.append_assoc]
  cases r.experiment <;> cases r.bucketBy <;> rfl

/-- The row of a rollout is the one that it was made of. -/
lemma row_ofRow (r : Row FieldTypes) : (ofRow r).row = r := by
  obtain ⟨experiment, kind, bucketBy, variations, seed, ⟨⟩⟩ := r
  cases bucketBy with
  | none => rfl
  | some text =>
    simp only [ofRow, row, Option.map_some, Reference.text_ofAttribute]
    rfl

/-- Rollouts with equal rows are equal, weights being compared numerically. -/
lemma same_of_codecs {r r' : Row FieldTypes} (h : codecs.same r r' = true) :
    (ofRow r).same (ofRow r') = true := by
  obtain ⟨experiment, kind, bucketBy, variations, seed, ⟨⟩⟩ := r
  obtain ⟨experiment', kind', bucketBy', variations', seed', ⟨⟩⟩ := r'
  simp only [codecs, same_kindCodec, Kind.codec, signed64Codec, Codecs.same, FieldCodec.same_unlessDefault,
    FieldCodec.same_optionalMember, FieldCodec.same_list, Codec.same_ofString, Codec.same_string,
    Codec.same_integer, sameOption_beq, Bool.and_eq_true, beq_iff_eq, Bool.and_true] at h
  obtain ⟨rfl, rfl, rfl, hvariations, rfl⟩ := h
  simp only [same, ofRow, beq_self_eq_true, Bool.true_and, Bool.and_true]
  exact hvariations

/-- The codec of rollouts. -/
def codec : Codec Rollout :=
  .record codecs ofRow row document same (by decide) document_eq row_ofRow same_of_codecs

@[simp] lemma same_codec : codec.same = same := rfl

end Rollout

namespace Outcome

/-- The codecs of the fields of an outcome. -/
def codecs : Codecs [Option Nat, Option Rollout] :=
  .cons (.optional "variation" .natural64 Codec.decoder_natural64_null_ne) <|
  .cons (.optional "rollout" Rollout.codec nofun) <|
  .nil

/-- The members that an outcome is written as. -/
def row : Outcome → Row [Option Nat, Option Rollout]
  | variation index => (some index, none, ())
  | rollout r => (none, some r, ())
  | malformed => (none, none, ())

/-- An outcome is written as members of what it belongs to. -/
lemma members_eq (o : Outcome) : o.members = codecs.members o.row := by
  cases o <;> rfl

/-- A variation hides a rollout beside it; what is written has at most one of them. -/
lemma yields_row {room : Nat} {r : Row [Option Nat, Option Rollout]}
    (h : codecs.fields.Yields room r) : codecs.fields.Yields room (ofRow r).row := by
  obtain ⟨index, split, ⟨⟩⟩ := r
  cases index with
  | some index => exact ⟨h.1, .inr (.inl rfl), trivial⟩
  | none =>
    cases split with
    | some r => exact h
    | none => exact h

/-- Outcomes with equal rows are equal. -/
lemma same_of_codecs {o : Outcome} {r' : Row [Option Nat, Option Rollout]}
    (h : codecs.same o.row r' = true) : o.same (ofRow r') = true := by
  obtain ⟨index, split, ⟨⟩⟩ := r'
  cases o
  all_goals
    simp only [codecs, row, Codecs.same, FieldCodec.same_optional, Codec.same_natural64, sameOption_beq,
      Bool.and_eq_true, beq_iff_eq] at h
    obtain ⟨rfl, hsplit, -⟩ := h
  case variation => exact beq_self_eq_true _
  all_goals
    cases split with
    | none => first | rfl | cases hsplit
    | some r => exact hsplit

/-- The codec of outcomes. -/
def codec : Codec Outcome :=
  .splitRecord codecs ofRow row document same (by decide) (fun o => congrArg _ (members_eq o)) yields_row
    same_of_codecs

@[simp] lemma same_codec : codec.same = same := rfl

end Outcome

/-! ## Rules of flags -/

namespace FlagRule

/-- The members that were kept are an object again. -/
lemma membersOf_eq (kept : List (String × Tree)) : membersOf kept = Members.ofTrees kept := by
  induction kept with
  | nil => rfl
  | cons m rest ih =>
    rw [membersOf, ih]
    rfl

/-- Members that can be read through are all kept, in their order. -/
lemma foldlM_keepMember {room : Nat} {members : List (String × Tree)}
    (h : ∀ m ∈ members, m.2.readThrough room = .ok ()) (kept : List (String × Tree)) :
    members.foldlM (fun kept m => keepMember room kept m.1 m.2) kept = .ok (kept ++ members) := by
  induction members generalizing kept with
  | nil => rw [List.append_nil]; rfl
  | cons m rest ih =>
    rw [List.foldlM_cons]
    refine bind_eq_ok.mpr ⟨kept ++ [m], ?_, ?_⟩
    · exact bind_eq_ok.mpr ⟨(), h m List.mem_cons_self, rfl⟩
    · rw [ih (fun n hn => h n (List.mem_cons_of_mem _ hn)), List.append_assoc]
      rfl

/-- Members that were kept can be read through. -/
lemma readThrough_of_keepMember {room : Nat} {members kept kept' : List (String × Tree)}
    (h : members.foldlM (fun kept m => keepMember room kept m.1 m.2) kept = .ok kept') :
    ∀ m ∈ members, m.2.readThrough room = .ok () := by
  induction members generalizing kept with
  | nil => exact nofun
  | cons m rest ih =>
    obtain ⟨kept'', hkeep, hrest⟩ := bind_eq_ok.mp h
    obtain ⟨⟨⟩, hm, -⟩ := bind_eq_ok.mp hkeep
    exact List.forall_mem_cons.mpr ⟨hm, ih hrest⟩

/-- In a rule, all members that are not its own are read in full. -/
lemma readThrough_of_decoder {room : Nat} {members : List (String × Tree)} {r : FlagRule}
    (hnames : (Entries.names members).Nodup) (h : decoder room (.object (Members.ofTrees members)) = .ok r) :
    1 < room ∧ ∀ m ∈ fields.others members, m.2.readThrough (room - 1) = .ok () := by
  obtain ⟨hroom, h⟩ := enter_bind_eq_ok.mp h
  obtain ⟨⟨kept, slots⟩, hread, -⟩ := bind_eq_ok.mp h
  rw [← toOption_eq_some, Fields.readMembers_ofTrees (by decide) hnames, Option.bind_eq_some_iff] at hread
  obtain ⟨kept', hkept, -⟩ := hread
  exact ⟨hroom, readThrough_of_keepMember (toOption_eq_some.mp hkept)⟩

/-- A rule is decoded by looking up its own fields and those of its outcome among the same members. -/
lemma decoder_ofTrees {room : Nat} (hroom : 1 < room) {members : List (String × Tree)}
    (hnames : (Entries.names members).Nodup)
    (hothers : ∀ m ∈ fields.others members, m.2.readThrough (room - 1) = .ok ()) :
    (decoder room (.object (Members.ofTrees members))).toOption =
      (fields.find (room - 1) (Entries.get? · members)).bind fun (id, clauses, trackEvents, ()) =>
        (Outcome.fields.find (room - 1) (Entries.get? · members)).map fun row =>
          ⟨id, clauses, Outcome.ofRow row, trackEvents⟩ := by
  have henter : enter room = .ok (room - 1) := enter_eq_ok.mpr ⟨hroom, rfl⟩
  -- what is left for the outcome are the members of other names, and the outcome looks only at those
  have hkept : (Entries.names (fields.others members)).Nodup :=
    hnames.sublist (List.filter_sublist.map _)
  have houtcome : (outcomeOf (room - 1) (fields.others members)).toOption =
      (Outcome.fields.find (room - 1) (Entries.get? · members)).map Outcome.ofRow := by
    have hfind : Outcome.fields.find (room - 1) (Entries.get? · (fields.others members)) =
        Outcome.fields.find (room - 1) (Entries.get? · members) :=
      Fields.find_congr Outcome.fields fun name hname => Fields.get?_others (by
        revert name
        decide)
    rw [← hfind, ← Fields.decodeMembers_ofTrees (by decide) hkept
      (fun m hm => skip_of_readThrough (hothers m hm)), outcomeOf, membersOf_eq]
    cases Outcome.fields.decodeMembers (room - 1) (Members.ofTrees (fields.others members)) <;> rfl
  -- reading in order fills the slots, and what the rule does not know is kept
  have hread : (fields.readMembers (keepMember (room - 1)) (room - 1) [] (Slots.empty _)
      (Members.ofTrees members)).toOption =
      (fields.fill (room - 1) (Entries.get? · members) (Slots.empty _)).map (fields.others members, ·) := by
    rw [Fields.readMembers_ofTrees (by decide) hnames, foldlM_keepMember hothers]
    rfl
  rw [decoder, toOption_bind, henter, ← Fields.fill_finish]
  change Option.bind (some (room - 1)) (fun room => _) = _
  rw [Option.bind_some, toOption_bind, hread]
  cases fields.fill (room - 1) (Entries.get? · members) (Slots.empty _) with
  | none => rfl
  | some slots =>
    simp only [Option.map_some, Option.bind_some, toOption_bind]
    cases fields.finish slots with
    | error e => rfl
    | ok row =>
      obtain ⟨id, clauses, trackEvents, ⟨⟩⟩ := row
      change (outcomeOf (room - 1) (fields.others members) >>= _).toOption = Option.map _ _
      rw [toOption_bind, houtcome]
      cases Outcome.fields.find (room - 1) (Entries.get? · members) <;> rfl

/-- A rule that was decoded is made of values that its fields and those of its outcome yield. -/
lemma yields_of_decoder {room : Nat} {t : Tree} {r : FlagRule} (h : decoder room t = .ok r) :
    1 < room ∧ fields.Yields (room - 1) (r.id, r.clauses, r.trackEvents, ()) ∧
      ∃ row, Outcome.fields.Yields (room - 1) row ∧ r.outcome = Outcome.ofRow row := by
  cases t with
  | object members =>
    obtain ⟨hroom, h⟩ := enter_bind_eq_ok.mp h
    obtain ⟨⟨kept, slots⟩, hslots, h⟩ := bind_eq_ok.mp h
    obtain ⟨⟨id, clauses, trackEvents, ⟨⟩⟩, hfinish, h⟩ := bind_eq_ok.mp h
    obtain ⟨outcome, houtcome, h⟩ := bind_eq_ok.mp h
    cases h
    refine ⟨hroom, Fields.yields_of_finish fields
      (Fields.slotsRead_readMembers (Fields.slotsRead_empty fields) hslots) hfinish, ?_⟩
    -- the outcome is read from the members that were kept, and no more is asked of it
    rw [outcomeOf] at houtcome
    split at houtcome
    case h_1 row hrow =>
      cases houtcome
      exact ⟨row, Fields.yields_of_decodeMembers hrow, rfl⟩
    case h_2 => cases houtcome
  | _ => cases h

/-- The types of the members that a rule is written with. -/
abbrev MemberTypes : List Type := [String, List Clause, Option Nat, Option Rollout, Bool]

/-- The codecs of the fields of a rule and of its outcome. -/
def codecs : Codecs MemberTypes :=
  .cons (.unlessDefault "id" "" .string String.isEmpty (fun _ => String.isEmpty_iff) (by decide)) <|
  .cons (.list "clauses" Clause.codec) <|
  .cons (.optional "variation" .natural64 Codec.decoder_natural64_null_ne) <|
  .cons (.optional "rollout" Rollout.codec nofun) <|
  .cons (.flagIfTrue "trackEvents") <|
  .nil

/-- The values that a rule is written with. -/
def row (r : FlagRule) : Row MemberTypes :=
  (r.id, r.clauses, r.outcome.row.1, r.outcome.row.2.1, r.trackEvents, ())

/-- A rule is written field by field, the outcome among them. -/
lemma document_eq (r : FlagRule) : r.document = .object (codecs.members r.row) := by
  rw [document, memberUnless_eq, memberIfTrue_eq]
  simp only [codecs, Codecs.members, row, List.append_nil, List.append_assoc]
  cases r.outcome <;> rfl

/-- Rules with equal rows are equal. -/
lemma same_of_codecs {r : FlagRule} {row' : Row MemberTypes} (h : codecs.same r.row row' = true) :
    r.same ⟨row'.1, row'.2.1, Outcome.ofRow (row'.2.2.1, row'.2.2.2.1, ()), row'.2.2.2.2.1⟩ = true := by
  obtain ⟨id, clauses, index, split, trackEvents, ⟨⟩⟩ := row'
  simp only [codecs, row, Codecs.same, FieldCodec.same_unlessDefault, FieldCodec.same_list,
    FieldCodec.same_optional, FieldCodec.same_flagIfTrue, Codec.same_string, Bool.and_eq_true,
    beq_iff_eq, Bool.and_true] at h
  obtain ⟨rfl, hclauses, hindex, hsplit, rfl⟩ := h
  have houtcome : r.outcome.same (Outcome.ofRow (index, split, ())) = true := by
    refine Outcome.same_of_codecs ?_
    rw [show r.outcome.row = (r.outcome.row.1, r.outcome.row.2.1, ()) by cases r.outcome <;> rfl]
    simp only [Outcome.codecs, Codecs.same, FieldCodec.same_optional, hindex, hsplit, Bool.and_self]
  simp only [same, beq_self_eq_true, Bool.true_and, Bool.and_true, houtcome]
  exact hclauses

/-- The codec of rules of flags. -/
def codec : Codec FlagRule where
  decoder := decoder
  document := document
  same := same
  Legible r := codecs.Legible r.row
  depth := codecs.depth + 1
  restores {room t r} hroom h hlegible := by
    obtain ⟨hlarge, ⟨hid, hclauses, htrack, -⟩, outcomeRow, houtcome, heq⟩ := yields_of_decoder h
    have hwritten : Outcome.fields.Yields (room - 1) r.outcome.row := heq ▸ Outcome.yields_row houtcome
    have hyields : codecs.fields.Yields (room - 1) r.row :=
      ⟨hid, hclauses, hwritten.1, hwritten.2.1, htrack, trivial⟩
    obtain ⟨ts, row', hreads, hthrough, hfind, hsame⟩ :=
      codecs.restores (by decide) (by omega : codecs.depth < room - 1) hyields hlegible
    obtain ⟨id, clauses, index, split, trackEvents, ⟨⟩⟩ := row'
    have hnames : (Entries.names ts).Nodup := by
      rw [names_eq_of_readAs hreads]
      exact (codecs.names_texts_sublist _).nodup (by decide)
    refine ⟨.object (Members.ofTrees ts), ⟨id, clauses, Outcome.ofRow (index, split, ()), trackEvents⟩, ?_,
      ?_, ?_, same_of_codecs hsame⟩
    · rw [document_eq, chars_object]
      exact reads_object hreads
    · exact enter_bind_eq_ok.mpr ⟨hlarge, Members.readThrough_ofTrees hthrough⟩
    · obtain ⟨hid, hfind⟩ := Fields.find_cons_eq_some.mp hfind
      obtain ⟨hclauses, hfind⟩ := Fields.find_cons_eq_some.mp hfind
      obtain ⟨hindex, hfind⟩ := Fields.find_cons_eq_some.mp hfind
      obtain ⟨hsplit, hfind⟩ := Fields.find_cons_eq_some.mp hfind
      obtain ⟨htrack, -⟩ := Fields.find_cons_eq_some.mp hfind
      have hfields : fields.find (room - 1) (Entries.get? · ts) = some (id, clauses, trackEvents, ()) :=
        Fields.find_cons_eq_some.mpr ⟨hid, Fields.find_cons_eq_some.mpr ⟨hclauses,
          Fields.find_cons_eq_some.mpr ⟨htrack, rfl⟩⟩⟩
      have houtcome : Outcome.fields.find (room - 1) (Entries.get? · ts) = some (index, split, ()) :=
        Fields.find_cons_eq_some.mpr ⟨hindex, Fields.find_cons_eq_some.mpr ⟨hsplit, rfl⟩⟩
      rw [← toOption_eq_some, decoder_ofTrees hlarge hnames fun m hm => hthrough m (List.mem_of_mem_filter hm), hfields, houtcome]
      rfl

@[simp] lemma same_codec : codec.same = same := rfl

end FlagRule

/-! ## Rules of segments -/

namespace SegmentRule

/-- The codecs of the fields of a rule. -/
def codecs : Codecs FieldTypes :=
  .cons (.optional "id" .string Codec.decoder_string_null_ne) <|
  .cons (.list "clauses" Clause.codec) <|
  .cons (.optional "weight" Weight.codec nofun) <|
  .cons (.optional "bucketBy" .string Codec.decoder_string_null_ne) <|
  .cons (.optional "rolloutContextKind" Kind.codec Kind.decoder_null_ne) <|
  .nil

/-- The values of the fields of a rule. -/
def row (r : SegmentRule) : Row FieldTypes :=
  (r.id, r.clauses, r.weight, r.bucketBy.map (·.text), r.rolloutContextKind, ())

/-- A rule of a segment is written field by field. -/
lemma document_eq (r : SegmentRule) : r.document = .object (codecs.members r.row) := by
  rw [document, member?_eq, member?_eq, member?_eq, member?_eq]
  simp only [codecs, Codecs.members, row, List.append_nil, List.append_assoc]
  cases r.bucketBy <;> rfl

/-- The row of a rule of a segment is the one that it was made of. -/
lemma row_ofRow (r : Row FieldTypes) : (ofRow r).row = r := by
  obtain ⟨id, clauses, weight, bucketBy, kind, ⟨⟩⟩ := r
  cases bucketBy with
  | none => rfl
  | some text =>
    simp only [ofRow, row, Option.map_some, Reference.text_ofAttribute]
    rfl

/-- Rules of segments with equal rows are equal. -/
lemma same_of_codecs {r r' : Row FieldTypes} (h : codecs.same r r' = true) :
    (ofRow r).same (ofRow r') = true := by
  obtain ⟨id, clauses, weight, bucketBy, kind, ⟨⟩⟩ := r
  obtain ⟨id', clauses', weight', bucketBy', kind', ⟨⟩⟩ := r'
  simp only [codecs, Kind.codec, Codecs.same, FieldCodec.same_optional, FieldCodec.same_list,
    Codec.same_ofString, Codec.same_string, sameOption_beq, Bool.and_eq_true, beq_iff_eq,
    Bool.and_true] at h
  obtain ⟨rfl, hclauses, hweight, rfl, rfl⟩ := h
  simp only [same, ofRow, beq_self_eq_true, Bool.true_and, Bool.and_true, Bool.and_eq_true]
  exact ⟨hclauses, hweight⟩

/-- The codec of rules of segments. -/
def codec : Codec SegmentRule :=
  .record codecs ofRow row document same (by decide) document_eq row_ofRow same_of_codecs

@[simp] lemma same_codec : codec.same = same := rfl

end SegmentRule

end FeatureFlags
