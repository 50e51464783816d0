import Mathlib.Data.List.Nodup
import RoomTimeline.Config
import RoomTimeline.Proofs.Json.Reading

/-!
# Configurations read back

An object that holds what a configuration has in some of its fields is read as these fields of the
configuration and the defaults of all others, whatever the order of its members and whatever else it
holds; one that repeats the key of a field is refused (`config_reads_back`). So each configuration
is read back from its own text, and no two configurations have one text.

Reading goes through the members once. What it has built after some of them is the configuration in
the fields that have been seen and the default in the others (`Config.only`), which is what one
member keeps (`Config.enter_only`).
-/

namespace RoomTimeline

/-- What a kind is written as is read as the kind. -/
theorem TimelineKind.ofDraft_toJson (outer : Nat) (kind : TimelineKind) :
    ofDraft outer kind.toJson.draft = .ok kind := by
  cases kind with
  | live => rfl
  | detached focusedEventId => rfl
  | thread rootEventId => rfl
  | pinned => rfl
  | media presentation => cases presentation <;> rfl

/-- A number of sixty-four bits is read as itself. -/
theorem Json.toUInt64?_nat (n : UInt64) : (Json.nat n.toNat).toUInt64? = some n := by
  have small : n.toNat < UInt64.size := n.toNat_lt
  simp [Json.nat, toUInt64?, Numeral.toNat?_ofNat, small]

/-- A literal is read as what it denotes. -/
theorem Draft.expect_draft {α : Type} {view : Json → Option α} {document : Json} {value : α}
    (plain : document.draft.literal? = some document) (denotes : view document = some value) :
    document.draft.expect view = .ok value := by
  simp [expect, plain, denotes]

/-- The members of a document as a draft, each under its key. -/
theorem Json.draftMembers_eq_map (members : List (String × Json)) :
    draftMembers members = members.map fun member => (some member.1, member.2.draft) := by
  induction members with
  | nil => rfl
  | cons member rest inductionHypothesis =>
    rw [List.map_cons, ← inductionHypothesis]
    rfl

namespace Config

/-! ## Fields -/

/-- A key is that of a field just if it is the field's name. -/
theorem Field.ofName?_eq_some {key : String} {field : Field} :
    ofName? key = some field ↔ key = field.name := by
  constructor
  · intro found
    have same := List.find?_some (p := fun field : Field => field.name = key) found
    exact (of_decide_eq_true same).symm
  · rintro rfl
    cases field <;> decide

/-- The configuration in one field, and another one in all others. -/
def taking (built config : Config) : Field → Config
  | .kind => { built with kind := config.kind }
  | .showPaginationIndicators =>
    { built with showPaginationIndicators := config.showPaginationIndicators }
  | .hideTrailingReadMarker =>
    { built with hideTrailingReadMarker := config.hideTrailingReadMarker }
  | .collapseStateEvents => { built with collapseStateEvents := config.collapseStateEvents }
  | .groupingMaxGapMs => { built with groupingMaxGapMs := config.groupingMaxGapMs }
  | .logDiffs => { built with logDiffs := config.logDiffs }
  | .bridgeCapacity => { built with bridgeCapacity := config.bridgeCapacity }

/-- The configuration in some fields, and the default in all others. -/
def only (config : Config) (fields : List Field) : Config where
  kind := if .kind ∈ fields then config.kind else ({} : Config).kind
  showPaginationIndicators :=
    if .showPaginationIndicators ∈ fields then config.showPaginationIndicators
    else ({} : Config).showPaginationIndicators
  hideTrailingReadMarker :=
    if .hideTrailingReadMarker ∈ fields then config.hideTrailingReadMarker
    else ({} : Config).hideTrailingReadMarker
  collapseStateEvents :=
    if .collapseStateEvents ∈ fields then config.collapseStateEvents
    else ({} : Config).collapseStateEvents
  groupingMaxGapMs :=
    if .groupingMaxGapMs ∈ fields then config.groupingMaxGapMs
    else ({} : Config).groupingMaxGapMs
  logDiffs := if .logDiffs ∈ fields then config.logDiffs else ({} : Config).logDiffs
  bridgeCapacity :=
    if .bridgeCapacity ∈ fields then config.bridgeCapacity else ({} : Config).bridgeCapacity

/-- Reading what a configuration has written for a field takes this field over from it. -/
theorem enter_value (built config : Config) (field : Field) :
    built.enter (config.value field).draft field = .ok (built.taking config field) := by
  cases field with
  | kind =>
    change (TimelineKind.ofDraft 1 config.kind.toJson.draft >>= _) = _
    rw [TimelineKind.ofDraft_toJson]
    rfl
  | groupingMaxGapMs =>
    have read : (optionalNat config.groupingMaxGapMs).draft.expect toOptionalUInt64? =
        .ok config.groupingMaxGapMs := by
      cases config.groupingMaxGapMs with
      | none => rfl
      | some limit =>
        exact Draft.expect_draft rfl (congrArg (Option.map some) (Json.toUInt64?_nat limit))
    change ((optionalNat config.groupingMaxGapMs).draft.expect toOptionalUInt64? >>= _) = _
    rw [read]
    rfl
  | bridgeCapacity =>
    change ((Json.nat config.bridgeCapacity.toNat).draft.expect Json.toUInt64? >>= _) = _
    rw [Draft.expect_draft rfl (Json.toUInt64?_nat config.bridgeCapacity)]
    rfl
  | showPaginationIndicators | hideTrailingReadMarker | collapseStateEvents | logDiffs => rfl

/-- Taking one more field over from a configuration adds the field to those that have been taken
over. -/
theorem only_cons (config : Config) (field : Field) (fields : List Field) :
    (config.only fields).taking config field = config.only (field :: fields) := by
  cases field <;> simp [only, taking]

/-- The configuration in some fields, and the default in all others, does not depend on the order in
which the fields are listed. -/
theorem only_congr (config : Config) {fields others : List Field}
    (same : ∀ field, field ∈ fields ↔ field ∈ others) :
    config.only fields = config.only others := by
  simp [only, same]

/-- Taken over in all its fields a configuration is itself. -/
theorem only_all (config : Config) : config.only Field.all = config := rfl

/-! ## Members -/

/-- The fields that the members of an object are for, in the order of the members. -/
def mentioned (members : List (Option String × Draft)) : List Field :=
  members.filterMap fun member => member.1.bind Field.ofName?

/-- Members that tell of a configuration: each has a key, the key of a field stands before what the
configuration has there, and no field is mentioned twice. What stands under other keys is of no
matter. -/
structure Told (config : Config) (members : List (Option String × Draft)) : Prop where
  keys : ∀ member ∈ members, member.1 ≠ none
  values : ∀ field value, (some field.name, value) ∈ members → value = (config.value field).draft
  once : (mentioned members).Nodup

/-- Members that tell of a configuration still do so without the first of them. -/
theorem Told.tail {config : Config} {member : Option String × Draft}
    {rest : List (Option String × Draft)} (told : config.Told (member :: rest)) :
    config.Told rest := by
  refine ⟨fun other inside => told.keys other (List.mem_cons_of_mem _ inside),
    fun field value inside => told.values field value (List.mem_cons_of_mem _ inside), ?_⟩
  exact told.once.sublist ((List.sublist_cons_self member rest).filterMap _)

/-- Members that tell of a configuration are read as what it has in the fields that they mention, on
top of the fields that have been seen before. -/
theorem ofMembers_told {config : Config} {members : List (Option String × Draft)}
    (told : config.Told members) (seen : List Field)
    (fresh : ∀ field ∈ mentioned members, field ∉ seen) :
    ofMembers (config.only seen) seen members =
      .ok (config.only ((mentioned members).reverse ++ seen)) := by
  induction members generalizing seen with
  | nil => rfl
  | cons member rest inductionHypothesis =>
    obtain ⟨key, value⟩ := member
    cases key with
    | none => exact absurd rfl (told.keys _ List.mem_cons_self)
    | some key =>
      have onceMore := told.once
      cases found : Field.ofName? key with
      | none =>
        have same : mentioned ((some key, value) :: rest) = mentioned rest := by
          simp [mentioned, found]
        rw [same] at fresh ⊢
        rw [ofMembers, found]
        exact inductionHypothesis told.tail seen fresh
      | some field =>
        have longer : mentioned ((some key, value) :: rest) = field :: mentioned rest := by
          simp [mentioned, found]
        rw [longer] at fresh onceMore ⊢
        obtain ⟨new, distinct⟩ := List.nodup_cons.mp onceMore
        have unseen : field ∉ seen := fresh field List.mem_cons_self
        have freshOn : ∀ other ∈ mentioned rest, other ∉ field :: seen := by
          intro other inside again
          rcases List.mem_cons.mp again with rfl | before
          · exact new inside
          · exact fresh other (List.mem_cons_of_mem _ inside) before
        have own : value = (config.value field).draft := by
          refine told.values field value ?_
          rw [← Field.ofName?_eq_some.mp found]
          exact List.mem_cons_self
        have read := inductionHypothesis told.tail (field :: seen) freshOn
        rw [ofMembers, found]
        simp only [unseen, if_false, own, enter_value, only_cons]
        rw [List.reverse_cons, List.append_assoc]
        exact read

/-- Members that can be read mention no field twice, and none that has been seen before. -/
theorem nodup_of_ofMembers {built result : Config} {seen : List Field}
    {members : List (Option String × Draft)} (read : ofMembers built seen members = .ok result) :
    (mentioned members).Nodup ∧ ∀ field ∈ mentioned members, field ∉ seen := by
  induction members generalizing built seen with
  | nil => exact ⟨List.nodup_nil, fun field inside => absurd inside List.not_mem_nil⟩
  | cons member rest inductionHypothesis =>
    obtain ⟨key, value⟩ := member
    cases key with
    | none => cases read
    | some key =>
      rw [ofMembers] at read
      cases found : Field.ofName? key with
      | none =>
        have same : mentioned ((some key, value) :: rest) = mentioned rest := by
          simp [mentioned, found]
        rw [found] at read
        rw [same]
        exact inductionHypothesis read
      | some field =>
        have longer : mentioned ((some key, value) :: rest) = field :: mentioned rest := by
          simp [mentioned, found]
        rw [found] at read
        dsimp only at read
        split at read
        · cases read
        · rename_i unseen
          cases entered : built.enter value field with
          | error fault =>
            rw [entered] at read
            cases read
          | ok next =>
            rw [entered] at read
            obtain ⟨distinct, fresh⟩ := inductionHypothesis read
            rw [longer]
            refine ⟨List.nodup_cons.mpr ⟨fun inside => fresh field inside List.mem_cons_self,
              distinct⟩, List.forall_mem_cons.mpr ⟨unseen, ?_⟩⟩
            exact fun other inside before => fresh other inside (List.mem_cons_of_mem _ before)

/-! ## Texts -/

/-- From a text that scans to a document a configuration is read as from this document, unless
something other than blanks follows. -/
theorem ofText_of_scan {text : String} {draft : Draft} {rest : List Char}
    (scanned : Draft.scan text.toList = (draft, rest)) :
    ofText text = (ofDraft draft).bind fun config =>
      if Draft.skipBlank rest = [] then .ok config else .error .malformed := by
  unfold ofText Draft.read
  rw [scanned]
  rfl

/-- Members that tell of a configuration are read as what it has in the fields that they mention and
the defaults of all others. -/
theorem ofDraft_told {config : Config} {members : List (Option String × Draft)}
    (told : config.Told members) :
    ofDraft (.object members) = .ok (config.only (mentioned members)) := by
  have read := ofMembers_told told [] fun _ _ => List.not_mem_nil
  rw [List.append_nil] at read
  exact read.trans (congrArg Except.ok (config.only_congr fun _ => List.mem_reverse))

/-- What a document has under the keys of fields tells of a configuration if it is what the
configuration has there, and no field is mentioned twice. -/
theorem told_draftMembers {config : Config} {members : List (String × Json)}
    (values : ∀ field value, (field.name, value) ∈ members → value = config.value field)
    (once : (mentioned (Json.draftMembers members)).Nodup) :
    config.Told (Json.draftMembers members) := by
  refine ⟨?_, ?_, once⟩
  · rw [Json.draftMembers_eq_map]
    intro member inside
    obtain ⟨⟨key, value⟩, -, rfl⟩ := List.mem_map.mp inside
    exact Option.some_ne_none key
  · rw [Json.draftMembers_eq_map]
    intro field value inside
    obtain ⟨⟨key, document⟩, known, same⟩ := List.mem_map.mp inside
    cases same
    rw [values field document known]

/-- A document of members that tell of a configuration is read as what it has in the fields that
they mention. -/
theorem ofText_object {config : Config} {members : List (String × Json)}
    (values : ∀ field value, (field.name, value) ∈ members → value = config.value field)
    (once : (mentioned (Json.draftMembers members)).Nodup) :
    ofText (Json.object members).render =
      .ok (config.only (mentioned (Json.draftMembers members))) := by
  rw [ofText_of_scan (Json.object members).scan_render]
  change (ofDraft (.object (Json.draftMembers members))).bind _ = _
  rw [ofDraft_told (told_draftMembers values once)]
  rfl

/-- The members of a configuration that is written out mention all fields in order. -/
theorem mentioned_all (config : Config) :
    mentioned (Json.draftMembers (Field.all.map fun field => (field.name, config.value field))) =
      Field.all := by
  rw [Json.draftMembers_eq_map, mentioned, List.map_map, List.filterMap_map]
  refine Eq.trans ?_ (List.filterMap_some (l := Field.all))
  exact List.filterMap_congr fun field _ => Field.ofName?_eq_some.mpr rfl

/-- A configuration is read back from its own text. -/
theorem ofText_render (config : Config) : ofText config.toJson.render = .ok config := by
  have values : ∀ field value,
      (Field.name field, value) ∈ Field.all.map (fun field => (field.name, config.value field)) →
        value = config.value field := by
    intro field value inside
    obtain ⟨other, -, same⟩ := List.mem_map.mp inside
    have found : Field.ofName? field.name = some other :=
      Field.ofName?_eq_some.mpr (congrArg Prod.fst same).symm
    rw [Field.ofName?_eq_some.mpr rfl] at found
    rw [Option.some.inj found]
    exact (congrArg Prod.snd same).symm
  have read := ofText_object values (by rw [mentioned_all]; decide)
  rw [mentioned_all, only_all] at read
  exact read

/-- A field whose key stands in several members is mentioned as often. -/
theorem count_mentioned (field : Field) (members : List (Option String × Draft)) :
    (mentioned members).count field = members.countP fun member => member.1 = some field.name := by
  unfold mentioned List.count
  rw [List.countP_filterMap]
  refine List.countP_congr fun member _ => ?_
  have own : member.1.bind Field.ofName? = some field ↔ member.1 = some field.name := by
    constructor
    · intro found
      obtain ⟨key, written, named⟩ := Option.bind_eq_some_iff.mp found
      rw [written, Field.ofName?_eq_some.mp named]
    · intro written
      rw [written]
      exact Field.ofName?_eq_some.mpr rfl
  rw [decide_eq_true_iff, ← own]
  cases member.1.bind Field.ofName? <;> simp

end Config

/-- Configurations read back from texts.
- A text that holds an object, and nothing but blanks behind it, is read as a configuration in the
  fields that it mentions and the defaults of all others, if under the key of each field that it
  mentions stands what the configuration has there, and none is mentioned twice. Its other members
  may hold anything.
- So is the compact text of any such document.
- A configuration is read back from its own text; so no two configurations have the same text.
- A text that holds an object with the key of a field more than once is refused. -/
theorem config_reads_back :
    (∀ {config : Config} {text : String} {members : List (Option String × Draft)}
        {rest : List Char}, Draft.scan text.toList = (.object members, rest) →
      Draft.skipBlank rest = [] → config.Told members →
        Config.ofText text = .ok (config.only (Config.mentioned members))) ∧
    (∀ {config : Config} {members : List (String × Json)},
      (∀ field value, (Config.Field.name field, value) ∈ members → value = config.value field) →
      (Config.mentioned (Json.draftMembers members)).Nodup →
        Config.ofText (Json.object members).render =
          .ok (config.only (Config.mentioned (Json.draftMembers members)))) ∧
    (∀ config : Config, Config.ofText config.toJson.render = .ok config) ∧
    (∀ config other : Config, config.toJson.render = other.toJson.render → config = other) ∧
    ∀ {text : String} {members : List (Option String × Draft)} {rest : List Char}
        {field : Config.Field},
      Draft.scan text.toList = (.object members, rest) →
      2 ≤ members.countP (fun member => member.1 = some field.name) →
        ∃ fault, Config.ofText text = .error fault := by
  refine ⟨?_, Config.ofText_object, Config.ofText_render, ?_, ?_⟩
  · intro config text members rest scanned blank told
    rw [Config.ofText_of_scan scanned, Config.ofDraft_told told]
    exact if_pos blank
  · intro config other same
    have read := config.ofText_render
    rw [same, other.ofText_render] at read
    exact (Except.ok.inj read).symm
  · intro text members rest field scanned repeats
    rw [Config.ofText_of_scan scanned]
    cases read : Config.ofDraft (.object members) with
    | error fault => exact ⟨fault, rfl⟩
    | ok config =>
      obtain ⟨distinct, -⟩ := Config.nodup_of_ofMembers read
      have atMost := List.nodup_iff_count_le_one.mp distinct field
      rw [Config.count_mentioned] at atMost
      omega

/-- A text with blanks, an unknown key and one field; a document with two fields in another order
than that of the configuration, behind an unknown key; and a text that has a key twice. -/
theorem config_reads_back_of_parts :
    Config.ofText "\x7b \"more\" : [ \"\\n\", \x7b \x7d ], \"logDiffs\" : true \x7d\n" =
        .ok { Config.ofKind .live with logDiffs := true } ∧
      Config.ofText (Json.object [("more", .object [("kind", .null)]),
          ("bridgeCapacity", Json.nat 18446744073709551615),
          ("kind", (TimelineKind.detached "$\"\n").toJson)]).render =
        .ok { Config.ofKind (.detached "$\"\n") with bridgeCapacity := 18446744073709551615 } ∧
      ∃ fault, Config.ofText "\x7b\"logDiffs\":true,\"logDiffs\":true\x7d" = .error fault := by
  obtain ⟨spaced, written, -, -, repeated⟩ := config_reads_back
  refine ⟨?_, ?_, ?_⟩
  · let config : Config := { Config.ofKind .pinned with logDiffs := true }
    let members : List (Option String × Draft) :=
      [(some "more", .array [.string (some "\n"), .object []]), (some "logDiffs", .bool true)]
    have scanned : Draft.scan
        "\x7b \"more\" : [ \"\\n\", \x7b \x7d ], \"logDiffs\" : true \x7d\n".toList =
          (.object members, ['\n']) := by cbv
    have told : config.Told members := by
      refine ⟨by simp [members], ?_, by decide⟩
      intro field value inside
      cases field <;> simp [members, Config.Field.name] at inside
      rw [inside]
      rfl
    exact spaced scanned rfl told
  · let config : Config := { Config.ofKind (.detached "$\"\n") with
      bridgeCapacity := 18446744073709551615, logDiffs := true }
    have values : ∀ field value, (Config.Field.name field, value) ∈
        [("more", .object [("kind", .null)]), ("bridgeCapacity", Json.nat 18446744073709551615),
          ("kind", (TimelineKind.detached "$\"\n").toJson)] → value = config.value field := by
      intro field value inside
      cases field <;> simp [Config.Field.name] at inside <;> rw [inside] <;> rfl
    exact written values (by decide)
  · let members : List (Option String × Draft) :=
      [(some "logDiffs", .bool true), (some "logDiffs", .bool true)]
    have scanned : Draft.scan "\x7b\"logDiffs\":true,\"logDiffs\":true\x7d".toList =
        (.object members, []) := by cbv
    have twice :
        2 ≤ members.countP fun member => member.1 = some (Config.Field.name .logDiffs) := by decide
    exact repeated scanned twice

end RoomTimeline
