import FeatureFlags.Proofs.Codec.Steady
import FeatureFlags.Proofs.Json.Continuing
import FeatureFlags.Update

/-!
# Items in `put` and `patch` events

A `put` event decodes its items off the text, a `patch` event decodes its item off the generic value of the
text. Both give the same descriptor for an item in which no name is repeated and whose nesting leaves room for
the events around it (`put_iff_patch`).
-/

namespace FeatureFlags

open Json

/-- The text of a `put` event with one item. -/
def putText (kind : DataKind) (key item : String) : String :=
  .ofList (objectText [("data", objectText [(kind.namespaceName, objectText [(key, item.toList)])])])

/-- The text of a `patch` event. -/
def patchText (kind : DataKind) (key item : String) : String :=
  .ofList (objectText [("path", quoted ("/" ++ kind.namespaceName ++ "/" ++ key)), ("data", item.toList)])

/-- A set of data with one item. -/
def DataSet.single (kind : DataKind) (key : String) (d : Descriptor) : DataSet :=
  match kind with
  | .flags => ⟨[(key, d)], []⟩
  | .segments => ⟨[], [(key, d)]⟩

/-- Decodes an item of a kind. -/
def DataKind.decoder : DataKind → Decoder Descriptor
  | .flags => Decoder.map Descriptor.ofFlag Flag.decoder
  | .segments => Decoder.map Descriptor.ofSegment Segment.decoder

/-- Decoders of flags and segments do not see the difference between a text and its value. -/
lemma DataKind.steady_decoder (kind : DataKind) : Steady kind.decoder := by
  cases kind with
  | flags => exact Flag.steady_decoder.map _
  | segments => exact Segment.steady_decoder.map _

lemma membersReadAs_cons (name : String) {chars : List Char} {t : Tree} (h : Reads chars t)
    {texts : List (String × List Char)} {ts : List (String × Tree)} (hrest : MembersReadAs texts ts) :
    MembersReadAs ((name, chars) :: texts) ((name, t) :: ts) :=
  .cons ⟨rfl, h⟩ hrest

/-! ## Put -/

lemma toOption_entries_one {α : Type} (d : Decoder α) {room : Nat} (hroom : 1 < room) (key : String)
    (t : Tree) : (Decoder.entries d room (.object (Members.ofTrees [(key, t)]))).toOption =
      (d (room - 1) t).toOption.map fun a => [(key, a)] := by
  have henter : enter room = .ok (room - 1) := enter_eq_ok.mpr ⟨hroom, rfl⟩
  simp only [Decoder.entries, henter, Members.ofTrees]
  change (d (room - 1) t >>= _).toOption = _
  cases d (room - 1) t <;> rfl

/-- Decodes the entries of one item, which may be null. -/
lemma toOption_items_one {α : Type} (d : Decoder α) {room : Nat} (hroom : 1 < room) (key : String) (t : Tree) :
    (Decoder.orDefault [] (Decoder.entries d) room (.object (Members.ofTrees [(key, t)]))).toOption =
      (d (room - 1) t).toOption.map fun a => [(key, a)] := by
  rw [Decoder.orDefault, Decoder.map, toOption_map, Steady.optional_object, toOption_entries_one d hroom]
  cases (d (room - 1) t).toOption <;> rfl

/-- The values of a record with two fields. -/
lemma find_two {α β : Type} (f : Json.Field α) (g : Json.Field β) (room : Nat) (look : Lookup) :
    (Fields.cons f (.cons g .nil)).find room look =
      (f.find room look).bind fun a => (g.find room look).map fun b => (a, b, ()) := by
  rw [Fields.find, Fields.find]
  cases f.find room look <;> cases g.find room look <;> rfl

/-- A data set of one item decodes as that item. -/
lemma toOption_dataSet (kind : DataKind) (key : String) {t : Tree} (ht : t.skip = .ok ()) :
    (DataSet.decoder 127 (.object (Members.ofTrees
      [(kind.namespaceName, .object (Members.ofTrees [(key, t)]))]))).toOption =
      (kind.decoder 125 t).toOption.map (DataSet.single kind key) := by
  have hskip : ∀ m ∈ [(kind.namespaceName, Tree.object (Members.ofTrees [(key, t)]))], m.2.skip = .ok () := by
    simp only [List.mem_singleton, forall_eq]
    exact Members.skip_ofTrees (by simpa using ht)
  rw [DataSet.decoder, record_ofTrees (by decide) (by decide) (by simp [Entries.names]) hskip, DataSet.fields,
    find_two]
  -- the other kind is absent from the object and defaults to no entries
  cases kind with
  | flags =>
    change Option.map _ (Option.bind (Decoder.orDefault [] (Decoder.entries Flag.decoder) 126
      (.object (Members.ofTrees [(key, t)]))).toOption fun flags => Option.map _ (some [])) = _
    rw [toOption_items_one Flag.decoder (by decide), DataKind.decoder, Decoder.map, toOption_map]
    cases Flag.decoder 125 t <;> rfl
  | segments =>
    change Option.map _ (Option.bind (some []) fun flags => Option.map _
      (Decoder.orDefault [] (Decoder.entries Segment.decoder) 126
        (.object (Members.ofTrees [(key, t)]))).toOption) = _
    rw [toOption_items_one Segment.decoder (by decide), DataKind.decoder, Decoder.map, toOption_map]
    cases Segment.decoder 125 t <;> rfl

/-- A put without a path decodes as its data. -/
lemma toOption_putDecoder {data : Tree} (hdata : data.skip = .ok ()) :
    (putDecoder nestingRoom (.object (Members.ofTrees [("data", data)]))).toOption =
      (DataSet.decoder 127 data).toOption.map fun d => (none, d) := by
  rw [putDecoder, record_ofTrees (by decide) (by decide) (by simp [Entries.names]) (by simpa using hdata),
    find_two]
  change Option.map _ (Option.bind (some none) fun a => Option.map _ (DataSet.decoder 127 data).toOption) = _
  cases DataSet.decoder 127 data <;> rfl

/-- The put of one item, down to the decoder of the item. -/
lemma toOption_put (kind : DataKind) (key : String) {item : String} {t : Tree} (ht : Reads item.toList t) :
    (Update.ofPut (putText kind key item)).toOption =
      (kind.decoder 125 t).toOption.map fun d => some (.init (.single kind key d)) := by
  have hitems := reads_object (membersReadAs_cons key ht .nil)
  have hdata := reads_object (membersReadAs_cons kind.namespaceName hitems .nil)
  have htext := reads_object (membersReadAs_cons "data" hdata .nil)
  have hrun : (putDecoder.run (putText kind key item)).toOption =
      (kind.decoder 125 t).toOption.map fun d => (none, .single kind key d) := by
    rw [putText, htext.run, toOption_putDecoder hdata.whole, toOption_dataSet kind key ht.whole, Option.map_map]
    rfl
  rw [Update.ofPut, toOption_bind, decodeAs, toOption_mapError, hrun]
  cases (kind.decoder 125 t).toOption <;> rfl

/-! ## Patch -/

lemma dropStart?_append (start text : List Char) : dropStart? start (start ++ text) = some text := by
  induction start with
  | nil => rfl
  | cons s start ih => rw [List.cons_append, dropStart?, if_pos rfl, ih]

/-- The path written for a key has that key. -/
lemma keyOf?_path (kind : DataKind) {key : String} (hkey : key ≠ "") :
    kind.keyOf? ("/" ++ kind.namespaceName ++ "/" ++ key) = some key := by
  have hpath : ("/" ++ kind.namespaceName ++ "/" ++ key).toList = kind.path ++ key.toList := by
    simp [DataKind.path]
  rw [DataKind.keyOf?, hpath, dropStart?_append]
  split
  case h_1 h => cases h
  case h_2 h => exact absurd (String.toList_eq_nil_iff.mp (Option.some.inj h)) hkey
  case h_3 h => rw [← Option.some.inj h, String.ofList_toList]

/-- The path written for a key of some kind has that kind and key. -/
lemma parsePath?_path (kind : DataKind) {key : String} (hkey : key ≠ "") :
    parsePath? ("/" ++ kind.namespaceName ++ "/" ++ key) = some (kind, key) := by
  cases kind with
  | flags => rw [parsePath?, keyOf?_path .flags hkey]
  | segments =>
    have hother : DataKind.flags.keyOf? ("/" ++ DataKind.segments.namespaceName ++ "/" ++ key) = none := by
      rw [DataKind.keyOf?]
      simp [DataKind.path, DataKind.namespaceName, dropStart?]
    rw [parsePath?, hother, keyOf?_path .segments hkey]
    rfl

/-- A patch reads its data as a value first. -/
lemma toOption_patchDecoder {path : String} {data : Tree} (hdata : data.skip = .ok ()) :
    (patchDecoder nestingRoom (.object (Members.ofTrees [("path", .string path), ("data", data)]))).toOption =
      (data.toValue 127).toOption.map fun v => (path, v) := by
  have hskip : ∀ m ∈ [("path", Tree.string path), ("data", data)], m.2.skip = .ok () := by
    rintro m hm
    simp only [List.mem_cons, List.not_mem_nil, or_false] at hm
    rcases hm with rfl | rfl
    · rfl
    · exact hdata
  have hnames : (Entries.names [("path", Tree.string path), ("data", data)]).Nodup := by
    simp [Entries.names]
  rw [patchDecoder, record_ofTrees (by decide) (by decide) hnames hskip, find_two]
  change Option.map _ (Option.bind (some path) fun a => Option.map _ (data.toValue 127).toOption) = _
  cases data.toValue 127 <;> rfl

/-- What a `patch` event says once its payload is decoded. -/
lemma ofPatch_of_decodes {text path : String} {data : Value}
    (h : decodeAs .patch patchDecoder text = .ok (path, data)) :
    Update.ofPatch text = match parsePath? path with
      | none => return none
      | some (.flags, key) => do
        let flag ← decodeValueAs .flag Flag.decoder data
        return some (.upsert .flags key (.ofFlag flag))
      | some (.segments, key) => do
        let segment ← decodeValueAs .segment Segment.decoder data
        return some (.upsert .segments key (.ofSegment segment)) := by
  rw [Update.ofPatch, h]
  rfl

/-- The payload only names the error, so the item of a patch is decoded off the tree of its value. -/
lemma toOption_decodeValueAs {α : Type} (payload : Payload) (d : Decoder α) (v : Value) :
    (decodeValueAs payload d v).toOption = (d nestingRoom (Tree.ofValue v)).toOption := by
  rw [decodeValueAs, toOption_mapError, Decoder.ofValue, toOption_mapError]

/-- The patch of one item, down to the decoder of the item, which sees the value of the text. -/
lemma toOption_patch (kind : DataKind) {key : String} (hkey : key ≠ "") {item : String} {t : Tree} {v : Value}
    (ht : Reads item.toList t) (hv : t.toValue 127 = .ok v) :
    (Update.ofPatch (patchText kind key item)).toOption =
      (kind.decoder nestingRoom (Tree.ofValue v)).toOption.map fun d => some (.upsert kind key d) := by
  have hpath := reads_string ("/" ++ kind.namespaceName ++ "/" ++ key)
  have htext := reads_object (membersReadAs_cons "path" hpath (membersReadAs_cons "data" ht .nil))
  -- the patch is decoded to its path and the value of its data, whatever kind the path names
  have hrun : (patchDecoder.run (patchText kind key item)).toOption =
      some ("/" ++ kind.namespaceName ++ "/" ++ key, v) := by
    rw [patchText, htext.run, toOption_patchDecoder ht.whole, hv]
    rfl
  have hdecode : decodeAs .patch patchDecoder (patchText kind key item) =
      .ok ("/" ++ kind.namespaceName ++ "/" ++ key, v) := by
    rw [← toOption_eq_some, decodeAs, toOption_mapError, hrun]
  rw [ofPatch_of_decodes hdecode, parsePath?_path kind hkey]
  -- the item is decoded from that value, as in a put apart from the room
  cases kind with
  | flags =>
    simp only [toOption_bind, toOption_decodeValueAs, DataKind.decoder, Decoder.map, toOption_map, Option.map_map]
    cases Flag.decoder nestingRoom (Tree.ofValue v) <;> rfl
  | segments =>
    simp only [toOption_bind, toOption_decodeValueAs, DataKind.decoder, Decoder.map, toOption_map, Option.map_map]
    cases Segment.decoder nestingRoom (Tree.ofValue v) <;> rfl

/-! ## Put and patch -/

/-- A text that is decoded as a generic value is read as a complete tree of this value. -/
lemma reads_of_run_value {item : String} {v : Value} (h : Decoder.value.run item = .ok v) :
    Reads item.toList (Tree.ofText item).1 ∧ (Tree.ofText item).1.toValue nestingRoom = .ok v := by
  rcases htext : Tree.ofText item with ⟨t, alone⟩
  rw [Decoder.run, htext] at h
  obtain ⟨w, hw, h⟩ := bind_eq_ok.mp h
  split_ifs at h with halone
  cases h
  rw [halone] at htext
  exact ⟨reads_of_ofText htext (skip_of_readThrough (readThrough_of_toValue hw)), hw⟩

lemma DataSet.single_injective (kind : DataKind) (key : String) :
    Function.Injective (DataSet.single kind key) := by
  intro d d' h
  cases kind <;> cases h <;> rfl

/-- A `put` event and a `patch` event with the same item give the same descriptor, or both are errors. -/
theorem put_iff_patch (kind : DataKind) (key item : String) (v : Value) (hkey : key ≠ "")
    (hv : Decoder.value.run item = .ok v) (hnames : (Tree.ofText item).1.DistinctNames)
    (hdepth : (Tree.ofText item).1.depth ≤ 100) :
    (∀ d, Update.ofPut (putText kind key item) = .ok (some (.init (.single kind key d))) ↔
      Update.ofPatch (patchText kind key item) = .ok (some (.upsert kind key d))) ∧
    ((∃ e, Update.ofPut (putText kind key item) = .error e) ↔
      ∃ e, Update.ofPatch (patchText kind key item) = .error e) := by
  obtain ⟨hreads, hvalue⟩ := reads_of_run_value hv
  have halike : Alike 100 (Tree.ofText item).1 (Tree.ofValue v) := alike_ofValue hvalue hnames hdepth
  -- the item is read with less room inside of a put, which its depth allows
  have hinner : (Tree.ofText item).1.toValue 127 = .ok v := by
    obtain ⟨w, hw⟩ := halike.exists_value
    rw [(hw 127 (by decide)).1, ← (hw nestingRoom (by decide)).1, hvalue]
  -- decoders of flags and segments do not distinguish the text from its value
  have hagree : (kind.decoder 125 (Tree.ofText item).1).toOption =
      (kind.decoder nestingRoom (Tree.ofValue v)).toOption :=
    kind.steady_decoder.agree halike (by decide) (by decide)
  have hput := toOption_put kind key hreads
  have hpatch := toOption_patch kind hkey hreads hinner
  rw [hagree] at hput
  constructor
  · intro d
    rw [← toOption_eq_some, ← toOption_eq_some, hput, hpatch, Option.map_eq_some_iff, Option.map_eq_some_iff]
    refine exists_congr fun d' => and_congr_right fun _ => ?_
    constructor
    · intro h
      rw [DataSet.single_injective kind key (Update.init.inj (Option.some.inj h))]
    · intro h
      rw [(Update.upsert.inj (Option.some.inj h)).2.2]
  · rw [← toOption_eq_none, ← toOption_eq_none, hput, hpatch, Option.map_eq_none_iff, Option.map_eq_none_iff]

/-- A flag with a rule whose outcome is a rollout, as a generic value. Its members are in ascending order. -/
def rampedFlagValue : Value :=
  .object [("fallthrough", .object [("variation", .number (.integer 1))]), ("key", .string "f"),
    ("on", .bool true),
    ("rules", .array [.object
      [("clauses", .array [.object [("attribute", .string "country"), ("op", .string "in"),
          ("values", .array [.string "fr"])]]),
       ("id", .string "french"),
       ("rollout", .object [("variations", .array
          [.object [("variation", .number (.integer 0)), ("weight", .number (.integer 60000))],
           .object [("variation", .number (.integer 1)), ("weight", .number (.integer 40000))]])])]]),
    ("salt", .string "salt"), ("variations", .array [.bool true, .bool false]),
    ("version", .number (.integer 1))]

/-- The flag of `rampedFlagValue`. -/
def rampedFlag : Flag where
  key := "f"
  version := 1
  on := true
  targets := []
  contextTargets := []
  rules := [⟨"french", [⟨none, .ofAttribute "country" false, false, .isIn, [.string "fr"]⟩],
    .rollout ⟨false, none, none, [⟨0, .ofInt 60000, false⟩, ⟨1, .ofInt 40000, false⟩], none⟩, false⟩]
  prerequisites := []
  fallthrough := .variation 1
  offVariation := none
  variations := [.bool true, .bool false]
  clientSide := false
  clientSideAvailability := none
  salt := "salt"
  trackEvents := false
  trackEventsFallthrough := false
  debugEventsUntilDate := none
  samplingRatio := none
  excludeFromSummaries := false
  migration := none
  deleted := false

/-- A `put` event and a `patch` event both bring a flag with its rule and its rollout. -/
theorem put_iff_patch_rampedFlag :
    Update.ofPut (putText .flags "f" (Document.ofValue rampedFlagValue).text) =
        .ok (some (.init (.single .flags "f" (.ofFlag rampedFlag)))) ∧
      Update.ofPatch (patchText .flags "f" (Document.ofValue rampedFlagValue).text) =
        .ok (some (.upsert .flags "f" (.ofFlag rampedFlag))) := by
  have hreads : Reads (Document.ofValue rampedFlagValue).chars (Tree.ofValue rampedFlagValue) :=
    reads_ofValue (by
      simp [rampedFlagValue, Value.numbers, Value.numbersOfMembers, Value.numbersOfItems])
  have hrun : Decoder.value.run (Document.ofValue rampedFlagValue).text = .ok rampedFlagValue :=
    hreads.run Decoder.value
  have htree : Tree.ofText (Document.ofValue rampedFlagValue).text = (Tree.ofValue rampedFlagValue, true) :=
    hreads.ofText
  have hdecode : DataKind.flags.decoder nestingRoom (Tree.ofValue rampedFlagValue) =
      .ok (.ofFlag rampedFlag) := rfl
  have hpatch : Update.ofPatch (patchText .flags "f" (Document.ofValue rampedFlagValue).text) =
      .ok (some (.upsert .flags "f" (.ofFlag rampedFlag))) := by
    obtain ⟨hitem, -⟩ := reads_of_run_value hrun
    rw [htree] at hitem
    -- the patch is decoded, and the theorem gives the put
    have hvalue : (Tree.ofValue rampedFlagValue).toValue 127 = .ok rampedFlagValue := rfl
    rw [← toOption_eq_some, toOption_patch .flags (by decide) hitem hvalue, hdecode]
    rfl
  have hagree := put_iff_patch .flags "f" (Document.ofValue rampedFlagValue).text rampedFlagValue
    (by decide) hrun
    (by rw [htree]; simp [rampedFlagValue, Tree.ofValue, Members.ofEntries, Items.ofValues, Tree.DistinctNames,
          Members.DistinctNames, Items.DistinctNames, Members.names])
    (by rw [htree]; decide)
  exact ⟨(hagree.1 _).mpr hpatch, hpatch⟩

end FeatureFlags
