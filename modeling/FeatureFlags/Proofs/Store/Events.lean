import FeatureFlags.Proofs.Json.Values
import FeatureFlags.Proofs.Store.Convergence
import FeatureFlags.Proofs.Stream.Payloads

/-!
# Stores fed with events

A store that is fed with the events of a stream holds flags among its flags and segments among its segments,
whatever the events are called and whatever their payloads say (`Store.WellTyped.receiveAll`). An event other
than `put` touches one entry at most, and its path spells out which one (`Store.get?_receive_of_ne`).

* `Update.wellTyped_of_ofEvent`: what a payload decodes to keeps flags and segments apart.
* `parsePath?_eq_some_iff`: the paths of items, and nothing but them, are paths.
-/

namespace FeatureFlags

open Json

/-! ## What belongs where -/

namespace Item

/-- The kind of data that an item is. -/
def kind : Item → DataKind
  | flag _ => .flags
  | segment _ => .segments

/-- The version that an item says it has. -/
def version : Item → Nat
  | flag f => f.version
  | segment s => s.version

/-- Whether an item is marked as deleted. -/
def deleted : Item → Bool
  | flag f => f.deleted
  | segment s => s.deleted

end Item

/-- An item that belongs among the data of a kind under a version. -/
structure Item.Fits (item : Item) (kind : DataKind) (version : Nat) : Prop where
  kind : item.kind = kind
  version : item.version = version
  live : item.deleted = false

/-- A descriptor that belongs among the data of a kind: a tombstone, or one with an item that fits. -/
def Descriptor.WellTyped (kind : DataKind) (d : Descriptor) : Prop :=
  ∀ item, d.item = some item → item.Fits kind d.version

/-- A set of data in which every descriptor belongs where it is. -/
def DataSet.WellTyped (data : DataSet) : Prop :=
  ∀ kind, ∀ entry ∈ data.items kind, entry.2.WellTyped kind

/-- A change of the data that puts descriptors where they belong. -/
def Update.WellTyped : Update → Prop
  | .init data => data.WellTyped
  | .upsert kind _ item => item.WellTyped kind

namespace Descriptor

lemma wellTyped_tombstone (kind : DataKind) (version : Nat) : (tombstone version).WellTyped kind := by
  intro item hitem
  cases hitem

/-- A flag that is marked as deleted becomes a tombstone. -/
lemma wellTyped_ofFlag (f : Flag) : (ofFlag f).WellTyped .flags := by
  unfold ofFlag
  by_cases hdeleted : f.deleted = true
  · rw [if_pos hdeleted]
    exact wellTyped_tombstone .flags f.version
  · rw [if_neg hdeleted]
    intro item hitem
    cases hitem
    exact ⟨rfl, rfl, Bool.eq_false_iff.mpr hdeleted⟩

/-- A segment that is marked as deleted becomes a tombstone. -/
lemma wellTyped_ofSegment (s : Segment) : (ofSegment s).WellTyped .segments := by
  unfold ofSegment
  by_cases hdeleted : s.deleted = true
  · rw [if_pos hdeleted]
    exact wellTyped_tombstone .segments s.version
  · rw [if_neg hdeleted]
    intro item hitem
    cases hitem
    exact ⟨rfl, rfl, Bool.eq_false_iff.mpr hdeleted⟩

/-- Among the flags whatever is no tombstone is found as a flag. -/
lemma WellTyped.isSome_flag? {d : Descriptor} (h : d.WellTyped .flags) :
    d.flag?.isSome = !d.isTombstone := by
  obtain ⟨version, _ | (f | s)⟩ := d
  · rfl
  · rfl
  · cases (h _ rfl).kind

/-- Among the segments whatever is no tombstone is found as a segment. -/
lemma WellTyped.isSome_segment? {d : Descriptor} (h : d.WellTyped .segments) :
    d.segment?.isSome = !d.isTombstone := by
  obtain ⟨version, _ | (f | s)⟩ := d
  · rfl
  · cases (h _ rfl).kind
  · rfl

end Descriptor

/-! ## Updates keep kinds apart -/

namespace Store

variable {s : Store}

/-- A store in which every descriptor belongs where it is. -/
def WellTyped (s : Store) : Prop := s.data.WellTyped

lemma wellTyped_empty : empty.WellTyped := by
  intro kind entry hentry
  cases kind <;> cases hentry

/-- An update of well typed items keeps a store well typed. -/
lemma WellTyped.apply (hs : s.WellTyped) {u : Update} (hu : u.WellTyped) : (s.apply u).WellTyped := by
  cases u with
  | init data => exact hu
  | upsert kind key item =>
    rw [Store.apply, upsert]
    by_cases haccepts : s.accepts kind key item = true
    · -- an entry is the one put in, or it was there before
      rw [if_pos haccepts]
      intro kind' entry hentry
      rw [items_insert] at hentry
      by_cases hkind : kind = kind'
      · subst hkind
        rw [if_pos rfl] at hentry
        rcases Entries.mem_insert hentry with rfl | hold
        · exact hu
        · exact hs kind entry hold
      · rw [if_neg hkind] at hentry
        exact hs kind' entry hentry
    · rw [if_neg haccepts]
      exact hs

end Store

namespace Update

variable {name text : String} {u : Update}

/-- Flags read as flags and segments read as segments are well typed. -/
lemma wellTyped_ofItems (flags : Entries Flag) (segments : Entries Segment) :
    (DataSet.ofItems flags segments).WellTyped := by
  intro kind entry hentry
  cases kind with
  | flags =>
    obtain ⟨⟨key, f⟩, -, rfl⟩ := List.mem_map.mp hentry
    exact Descriptor.wellTyped_ofFlag f
  | segments =>
    obtain ⟨⟨key, g⟩, -, rfl⟩ := List.mem_map.mp hentry
    exact Descriptor.wellTyped_ofSegment g

/-- A set of data that was decoded is made of flags and segments. -/
lemma wellTyped_of_decoder {room : Nat} {t : Tree} {data : DataSet}
    (h : DataSet.decoder room t = .ok data) : data.WellTyped := by
  obtain ⟨⟨flags, segments, _⟩, -, -, rfl⟩ := yields_of_record h
  exact wellTyped_ofItems flags segments

/-- A decoded put is well typed, since it files every item under the decoder that read it. -/
lemma wellTyped_of_putDecoder {room : Nat} {t : Tree} {path : Option String} {data : DataSet}
    (h : putDecoder room t = .ok (path, data)) : data.WellTyped := by
  obtain ⟨⟨path', data', _⟩, -, hyields, hrow⟩ := yields_of_record h
  cases hrow
  obtain ⟨-, ⟨t', hread⟩ | habsent | hcut, -⟩ := hyields
  · exact wellTyped_of_decoder hread
  -- the data has no default
  · cases habsent
  · cases hcut

end Update

/-! ## What events carry -/

lemma decodeAs_eq_ok {α : Type} {payload : Payload} {d : Decoder α} {text : String} {a : α} :
    decodeAs payload d text = .ok a ↔ d.run text = .ok a := by
  unfold decodeAs
  cases d.run text <;> simp [Except.mapError]

/-- What is decoded off a text is decoded off its tree. -/
lemma decoder_of_run {α : Type} {d : Decoder α} {text : String} {a : α} (h : d.run text = .ok a) :
    d nestingRoom (Tree.ofText text).1 = .ok a := by
  obtain ⟨b, hb, h⟩ := bind_eq_ok.mp h
  split_ifs at h
  cases h
  exact hb

namespace Update

variable {name text : String} {u : Update}

lemma wellTyped_of_ofPut (h : ofPut text = .ok (some u)) : u.WellTyped := by
  obtain ⟨⟨path, data⟩, hdecode, h⟩ := bind_eq_ok.mp h
  have hdata := wellTyped_of_putDecoder (decoder_of_run (decodeAs_eq_ok.mp hdecode))
  -- the path is left out, or it is that of all data, or the event carries nothing
  dsimp only at h
  split at h
  · cases h
    exact hdata
  · cases h
    exact hdata
  · cases h

/-- An update read from a patch is well typed: its path chooses both the kind and the decoder. -/
lemma wellTyped_of_ofPatch (h : ofPatch text = .ok (some u)) : u.WellTyped := by
  obtain ⟨⟨path, value⟩, -, h⟩ := bind_eq_ok.mp h
  dsimp only at h
  split at h
  · cases h
  · obtain ⟨f, -, h⟩ := bind_eq_ok.mp h
    cases h
    exact Descriptor.wellTyped_ofFlag f
  · obtain ⟨g, -, h⟩ := bind_eq_ok.mp h
    cases h
    exact Descriptor.wellTyped_ofSegment g

/-- A deletion is well typed: a tombstone has no kind. -/
lemma wellTyped_of_ofDelete (h : ofDelete text = .ok (some u)) : u.WellTyped := by
  obtain ⟨⟨path, version⟩, -, h⟩ := bind_eq_ok.mp h
  dsimp only at h
  split at h
  · cases h
  · cases h
    exact Descriptor.wellTyped_tombstone _ version

/-- Whatever an event carries keeps flags and segments apart. -/
theorem wellTyped_of_ofEvent (h : ofEvent name text = .ok (some u)) : u.WellTyped := by
  unfold ofEvent at h
  split_ifs at h
  · exact wellTyped_of_ofPut h
  · exact wellTyped_of_ofPatch h
  · exact wellTyped_of_ofDelete h
  · cases h

end Update

/-! ## Paths -/

/-- The path of an item below the path of its kind. -/
def DataKind.itemPath (kind : DataKind) (key : String) : String :=
  "/" ++ kind.namespaceName ++ "/" ++ key

lemma dropStart?_eq_some {start text rest : List Char} (h : dropStart? start text = some rest) :
    text = start ++ rest := by
  induction start generalizing text with
  | nil =>
    cases h
    rfl
  | cons c start ih =>
    cases text with
    | nil => cases h
    | cons d text =>
      rw [dropStart?] at h
      split_ifs at h with heq
      rw [heq, ih h, List.cons_append]

/-- A path has a key exactly in the form that is written for it. -/
lemma eq_itemPath_of_keyOf? {kind : DataKind} {path key : String} (h : kind.keyOf? path = some key) :
    key ≠ "" ∧ path = kind.itemPath key := by
  unfold DataKind.keyOf? at h
  cases hrest : dropStart? kind.path path.toList with
  | none =>
    rw [hrest] at h
    cases h
  | some rest =>
    rw [hrest] at h
    cases rest with
    | nil => cases h
    | cons c rest =>
      cases h
      refine ⟨fun hempty => ?_, ?_⟩
      · have hchars := congrArg String.toList hempty
        rw [String.toList_ofList] at hchars
        cases hchars
      · rw [← String.toList_inj, dropStart?_eq_some hrest]
        simp [DataKind.itemPath, DataKind.path]

/-- A path names an item exactly if it is the path of the item, and its key is not empty. -/
theorem parsePath?_eq_some_iff {path key : String} {kind : DataKind} :
    parsePath? path = some (kind, key) ↔ key ≠ "" ∧ path = kind.itemPath key := by
  constructor
  · intro h
    unfold parsePath? at h
    split at h
    · next hkey =>
      cases h
      exact eq_itemPath_of_keyOf? hkey
    · obtain ⟨key', hkey, h⟩ := Option.map_eq_some_iff.mp h
      cases h
      exact eq_itemPath_of_keyOf? hkey
  · rintro ⟨hkey, rfl⟩
    exact parsePath?_path kind hkey

namespace Update

variable {name text : String} {u : Update}

/-- The path in the payload of a `patch` or `delete` event, if the payload can be decoded. -/
def path? (name text : String) : Option String :=
  if name = "patch" then (patchDecoder.run text).toOption.map Prod.fst
  else if name = "delete" then (deleteDecoder.run text).toOption.map Prod.fst
  else none

/-- A patch is an upsert at its path. -/
lemma exists_upsert_of_ofPatch (h : ofPatch text = .ok (some u)) :
    ∃ kind key item, key ≠ "" ∧ path? "patch" text = some (kind.itemPath key) ∧
      u = upsert kind key item := by
  obtain ⟨⟨path, value⟩, hdecode, h⟩ := bind_eq_ok.mp h
  have hpath : path? "patch" text = some path := by
    rw [path?, if_pos rfl, decodeAs_eq_ok.mp hdecode]
    rfl
  dsimp only at h
  -- the path names a flag, a segment or nothing that is stored
  split at h
  · cases h
  · next key hparse =>
    obtain ⟨f, -, h⟩ := bind_eq_ok.mp h
    cases h
    obtain ⟨hkey, rfl⟩ := parsePath?_eq_some_iff.mp hparse
    exact ⟨.flags, key, _, hkey, hpath, rfl⟩
  · next key hparse =>
    obtain ⟨g, -, h⟩ := bind_eq_ok.mp h
    cases h
    obtain ⟨hkey, rfl⟩ := parsePath?_eq_some_iff.mp hparse
    exact ⟨.segments, key, _, hkey, hpath, rfl⟩

lemma exists_upsert_of_ofDelete (h : ofDelete text = .ok (some u)) :
    ∃ kind key item, key ≠ "" ∧ path? "delete" text = some (kind.itemPath key) ∧
      u = upsert kind key item := by
  obtain ⟨⟨path, version⟩, hdecode, h⟩ := bind_eq_ok.mp h
  have hpath : path? "delete" text = some path := by
    rw [path?, if_neg (by decide), if_pos rfl, decodeAs_eq_ok.mp hdecode]
    rfl
  dsimp only at h
  split at h
  · cases h
  · next kind key hparse =>
    cases h
    obtain ⟨hkey, rfl⟩ := parsePath?_eq_some_iff.mp hparse
    exact ⟨kind, key, _, hkey, hpath, rfl⟩

/-- What an event other than `put` carries is an item for the key that its path spells out. -/
lemma exists_upsert_of_ofEvent (hname : name ≠ "put") (h : ofEvent name text = .ok (some u)) :
    ∃ kind key item, key ≠ "" ∧ path? name text = some (kind.itemPath key) ∧
      u = upsert kind key item := by
  rw [ofEvent, if_neg hname] at h
  split_ifs at h with hpatch hdelete
  · subst hpatch
    exact exists_upsert_of_ofPatch h
  · subst hdelete
    exact exists_upsert_of_ofDelete h
  · cases h

end Update

/-! ## What cannot be decoded -/

namespace Update

variable {text : String} {e : DecodeError}

/-- A set of data that is rejected is an error, whatever else its payload says. -/
lemma ofPut_of_rejected (h : putDecoder.run text = .error e) : ofPut text = .error ⟨.put, e⟩ := by
  rw [ofPut, decodeAs, h]
  rfl

/-- An item that is rejected once its path is known is an error. -/
lemma ofPatch_of_rejected {kind : DataKind} {key : String} {v : Value} (hkey : key ≠ "")
    (hpatch : patchDecoder.run text = .ok (kind.itemPath key, v)) (hitem : kind.decoder.ofValue v = .error e) :
    ∃ failure, ofPatch text = .error failure := by
  have hpath : parsePath? (kind.itemPath key) = some (kind, key) := parsePath?_eq_some_iff.mpr ⟨hkey, rfl⟩
  rw [ofPatch_of_decodes (decodeAs_eq_ok.mpr hpatch), hpath]
  -- the descriptor of an item is made only once the item is decoded
  cases kind with
  | flags =>
    rw [Decoder.ofValue, DataKind.decoder, Decoder.map] at hitem
    dsimp only [decodeValueAs, Decoder.ofValue]
    cases hflag : Flag.decoder nestingRoom (Tree.ofValue v) with
    | error _ => exact ⟨_, rfl⟩
    | ok f =>
      rw [hflag] at hitem
      cases hitem
  | segments =>
    rw [Decoder.ofValue, DataKind.decoder, Decoder.map] at hitem
    dsimp only [decodeValueAs, Decoder.ofValue]
    cases hsegment : Segment.decoder nestingRoom (Tree.ofValue v) with
    | error _ => exact ⟨_, rfl⟩
    | ok g =>
      rw [hsegment] at hitem
      cases hitem

end Update

/-! ## Stores that receive events -/

namespace Store

variable {s : Store} {name text : String}

/-- The store after an event. One that carries nothing and one that cannot be decoded leave it alone. -/
def receive (s : Store) (name text : String) : Store :=
  match Update.ofEvent name text with
  | .ok (some u) => s.apply u
  | .ok none => s
  | .error _ => s

/-- The store after some events, each with its name and its payload. -/
def receiveAll (s : Store) (events : List (String × String)) : Store :=
  events.foldl (fun s event => s.receive event.1 event.2) s

/-- An event that is no update leaves the store alone. -/
lemma receive_of_none (h : ∀ u, Update.ofEvent name text ≠ .ok (some u)) : s.receive name text = s := by
  unfold receive
  split
  · next u hu => exact absurd hu (h u)
  · rfl
  · rfl

/-- An event changes a store by what it carries, if anything. -/
lemma receive_cases (s : Store) (name text : String) :
    (∃ u, Update.ofEvent name text = .ok (some u) ∧ s.receive name text = s.apply u) ∨
      s.receive name text = s := by
  by_cases h : ∃ u, Update.ofEvent name text = .ok (some u)
  · obtain ⟨u, hu⟩ := h
    exact .inl ⟨u, hu, by rw [receive, hu]⟩
  · exact .inr (receive_of_none fun u hu => h ⟨u, hu⟩)

/-- One event keeps a store well typed, whatever its name and text. -/
lemma WellTyped.receive (hs : s.WellTyped) (name text : String) : (s.receive name text).WellTyped := by
  rcases s.receive_cases name text with ⟨u, hu, heq⟩ | heq
  · rw [heq]
    exact hs.apply (Update.wellTyped_of_ofEvent hu)
  · rw [heq]
    exact hs

/-- By induction on the events. -/
theorem WellTyped.receiveAll (hs : s.WellTyped) (events : List (String × String)) :
    (s.receiveAll events).WellTyped := by
  induction events generalizing s with
  | nil => exact hs
  | cons event rest ih => exact ih (hs.receive event.1 event.2)

/-- A descriptor that is found belongs where it is found. -/
lemma WellTyped.get? (hs : s.WellTyped) {kind : DataKind} {key : String} {d : Descriptor}
    (h : s.get? kind key = some d) : d.WellTyped kind :=
  hs kind _ (Entries.mem_of_get? h)

/-- In a well typed store a flag is found exactly where an item is that is no tombstone. -/
lemma WellTyped.isSome_flag?_iff (hs : s.WellTyped) (key : String) :
    (s.flag? key).isSome ↔ ∃ d, s.get? .flags key = some d ∧ d.isTombstone = false := by
  unfold flag?
  cases hd : s.get? .flags key with
  | none => simp
  | some d => simp [(hs.get? hd).isSome_flag?]

lemma WellTyped.isSome_segment?_iff (hs : s.WellTyped) (key : String) :
    (s.segment? key).isSome ↔ ∃ d, s.get? .segments key = some d ∧ d.isTombstone = false := by
  unfold segment?
  cases hd : s.get? .segments key with
  | none => simp
  | some d => simp [(hs.get? hd).isSome_segment?]

/-- An upsert touches nothing but its own entry. -/
lemma get?_apply_upsert_of_ne {kind kind' : DataKind} {key key' : String} (item : Descriptor)
    (hother : ¬(kind' = kind ∧ key' = key)) :
    (s.apply (.upsert kind key item)).get? kind' key' = s.get? kind' key' := by
  rw [get?_apply, Update.revise_other]
  rintro ⟨rfl, rfl⟩
  exact hother ⟨rfl, rfl⟩

/-- An event other than `put` that names an item touches nothing but the entry of the item. -/
theorem get?_receive_of_ne (hname : name ≠ "put") {kind kind' : DataKind} {key key' : String}
    (hkey : key ≠ "") (hpath : Update.path? name text = some (kind.itemPath key))
    (hother : ¬(kind' = kind ∧ key' = key)) :
    (s.receive name text).get? kind' key' = s.get? kind' key' := by
  rcases s.receive_cases name text with ⟨u, hu, heq⟩ | heq
  · obtain ⟨kind₁, key₁, item, hkey₁, hpath₁, rfl⟩ := Update.exists_upsert_of_ofEvent hname hu
    -- a path names one item only
    have hsame : kind₁.itemPath key₁ = kind.itemPath key := Option.some.inj (hpath₁.symm.trans hpath)
    have hparse := parsePath?_eq_some_iff.mpr ⟨hkey₁, hsame.symm⟩
    rw [parsePath?_eq_some_iff.mpr ⟨hkey, rfl⟩] at hparse
    cases hparse
    rw [heq]
    exact get?_apply_upsert_of_ne item hother
  · rw [heq]

/-- An event other than `put` leaves it to others whether the store has received all data. -/
lemma initialized_receive (hname : name ≠ "put") :
    (s.receive name text).initialized = s.initialized := by
  rcases s.receive_cases name text with ⟨u, hu, heq⟩ | heq
  · obtain ⟨kind, key, item, -, -, rfl⟩ := Update.exists_upsert_of_ofEvent hname hu
    rw [heq]
    exact initialized_apply s _
  · rw [heq]

/-- An event other than `put` that names no item leaves the store as it is. -/
lemma receive_of_path?_ne (hname : name ≠ "put")
    (hpath : ∀ kind key, key ≠ "" → Update.path? name text ≠ some (DataKind.itemPath kind key)) :
    s.receive name text = s := by
  refine receive_of_none fun u hu => ?_
  obtain ⟨kind, key, -, hkey, hpath', -⟩ := Update.exists_upsert_of_ofEvent hname hu
  exact hpath kind key hkey hpath'

/-- A complete set of data for some path other than `/` leaves the store as it is. -/
lemma receive_put_of_path {path : String} {data : DataSet}
    (hput : putDecoder.run text = .ok (some path, data)) (hpath : path ≠ "/") :
    s.receive "put" text = s := by
  refine receive_of_none fun u hu => ?_
  rw [Update.ofEvent, if_pos rfl] at hu
  obtain ⟨⟨path', data'⟩, hdecode, hu⟩ := bind_eq_ok.mp hu
  rw [decodeAs_eq_ok.mp hdecode] at hput
  cases hput
  dsimp only at hu
  split at hu
  · next hnone => cases hnone
  · next hslash =>
    cases hslash
    exact hpath rfl
  · cases hu

/-- The store that has received these events and no others. -/
def received (events : List (String × String)) : Store := empty.receiveAll events

/-- A store that has received events of a stream, whatever they say, holds flags among its flags and segments
among its segments, each with its own version and none that is marked as deleted. So what is found as a flag
or a segment is what is stored and no tombstone. From then on, a `patch` or `delete` event whose path is
that of an item touches at most the entry of this item. A `patch` or `delete` event with any other path, a
`put` event for some path other than `/`, an event of another name, a `put` event whose data is rejected, a
`patch` event whose item is rejected, and any other one that cannot be decoded leave the store as it is. -/
theorem wellTyped_addressed (events : List (String × String)) :
    (∀ kind, ∀ entry ∈ (received events).data.items kind, entry.2.isTombstone = true ∨
      ∃ item, entry.2.item = some item ∧ item.kind = kind ∧ item.version = entry.2.version ∧
        item.deleted = false) ∧
    (∀ key, ((received events).flag? key).isSome ↔
      ∃ d, (received events).get? .flags key = some d ∧ d.isTombstone = false) ∧
    (∀ key, ((received events).segment? key).isSome ↔
      ∃ d, (received events).get? .segments key = some d ∧ d.isTombstone = false) ∧
    (∀ name text, name = "patch" ∨ name = "delete" →
      (∀ kind key, key ≠ "" →
        Update.path? name text = some ("/" ++ kind.namespaceName ++ "/" ++ key) →
        ((received events).receive name text).initialized = (received events).initialized ∧
        ∀ kind' key', ¬(kind' = kind ∧ key' = key) →
          ((received events).receive name text).get? kind' key' = (received events).get? kind' key') ∧
      ((∀ kind key, key ≠ "" →
          Update.path? name text ≠ some ("/" ++ DataKind.namespaceName kind ++ "/" ++ key)) →
        (received events).receive name text = received events)) ∧
    (∀ text path data, putDecoder.run text = .ok (some path, data) → path ≠ "/" →
      (received events).receive "put" text = received events) ∧
    (∀ name text, name ≠ "put" → name ≠ "patch" → name ≠ "delete" →
      (received events).receive name text = received events) ∧
    (∀ text e, putDecoder.run text = .error e →
      (received events).receive "put" text = received events) ∧
    (∀ text kind key v e, key ≠ "" →
      patchDecoder.run text = .ok ("/" ++ DataKind.namespaceName kind ++ "/" ++ key, v) →
      (DataKind.decoder kind).ofValue v = .error e →
        (received events).receive "patch" text = received events) ∧
    ∀ name text e, Update.ofEvent name text = .error e →
      (received events).receive name text = received events := by
  have hs : (received events).WellTyped := wellTyped_empty.receiveAll events
  have herror : ∀ name text e, Update.ofEvent name text = .error e →
      (received events).receive name text = received events := by
    intro name text e he
    refine receive_of_none fun u hu => ?_
    rw [he] at hu
    cases hu
  refine ⟨?_, hs.isSome_flag?_iff, hs.isSome_segment?_iff, ?_, ?_, ?_, ?_, ?_, herror⟩
  -- items are well typed
  · intro kind entry hentry
    cases hitem : entry.2.item with
    | none => exact .inl (by rw [Descriptor.isTombstone, hitem]; rfl)
    | some item =>
      have hfits := hs kind entry hentry item hitem
      exact .inr ⟨item, rfl, hfits.kind, hfits.version, hfits.live⟩
  -- a patch or a deletion touches its address only
  · intro name text hname
    have hput : name ≠ "put" := by
      rcases hname with rfl | rfl
      · decide
      · decide
    constructor
    · intro kind key hkey hpath
      exact ⟨initialized_receive hput, fun kind' key' => get?_receive_of_ne hput hkey hpath⟩
    · exact receive_of_path?_ne hput
  -- a put with a path of its own
  · intro text path data hput hpath
    exact receive_put_of_path hput hpath
  -- an event of another name
  · intro name text hput hpatch hdelete
    refine receive_of_none fun u hu => ?_
    rw [Update.ofEvent, if_neg hput, if_neg hpatch, if_neg hdelete] at hu
    cases hu
  -- a put that is not decoded
  · intro text e hput
    exact herror _ _ _ (Update.ofPut_of_rejected hput)
  -- a patch whose item is not decoded
  · intro text kind key v e hkey hpatch hitem
    obtain ⟨failure, hfailure⟩ := Update.ofPatch_of_rejected hkey hpatch hitem
    exact herror _ _ _ hfailure

/-- The payload of a `delete` event for version 2 of a flag whose key has a slash. -/
def deletionOfNestedFlag : String := "\x7b\"path\":\"/flags/a/b\",\"version\":2\x7d"

/-- The payload of a `patch` event whose item is no flag. -/
def patchWithNumber : String := "\x7b\"path\":\"/flags/a/b\",\"data\":1\x7d"

theorem wellTyped_addressed_nested :
    Update.path? "delete" deletionOfNestedFlag =
      some ("/" ++ DataKind.flags.namespaceName ++ "/" ++ "a/b") ∧
    ((received [("delete", deletionOfNestedFlag)]).receive "delete" deletionOfNestedFlag).get?
      .segments "a/b" = (received [("delete", deletionOfNestedFlag)]).get? .segments "a/b" ∧
    (received [("delete", deletionOfNestedFlag)]).receive "patch" patchWithNumber =
      received [("delete", deletionOfNestedFlag)] ∧
    (received [("delete", deletionOfNestedFlag)]).receive "put" patchWithNumber =
      received [("delete", deletionOfNestedFlag)] := by
  -- the deletion addresses the flag, so the segment of that name stays
  have hpath : Update.path? "delete" deletionOfNestedFlag =
      some ("/" ++ DataKind.flags.namespaceName ++ "/" ++ "a/b") := by decide +kernel
  obtain ⟨-, -, -, haddressed, -, -, hput, hpatch, -⟩ :=
    wellTyped_addressed [("delete", deletionOfNestedFlag)]
  obtain ⟨hnamed, -⟩ := haddressed "delete" deletionOfNestedFlag (.inr rfl)
  obtain ⟨-, hothers⟩ := hnamed .flags "a/b" (by decide) hpath
  refine ⟨hpath, hothers .segments "a/b" (by decide), ?_, ?_⟩
  · have hdecoded : (patchDecoder.run patchWithNumber).toOption.map
        (fun p => (p.1, (DataKind.flags.decoder.ofValue p.2).toOption.isNone)) =
          some ("/" ++ DataKind.flags.namespaceName ++ "/" ++ "a/b", true) := by decide +kernel
    obtain ⟨⟨path, v⟩, hrun, heq⟩ := Option.map_eq_some_iff.mp hdecoded
    obtain ⟨rfl, hrejected⟩ := Prod.mk.inj heq
    obtain ⟨e, hitem⟩ := toOption_eq_none.mp (Option.isNone_iff_eq_none.mp hrejected)
    exact hpatch _ .flags "a/b" v e (by decide) (toOption_eq_some.mp hrun) hitem
  · have hrejected : (putDecoder.run patchWithNumber).toOption.isNone = true := by decide +kernel
    obtain ⟨e, hdata⟩ := toOption_eq_none.mp (Option.isNone_iff_eq_none.mp hrejected)
    exact hput _ e hdata

end Store

end FeatureFlags
