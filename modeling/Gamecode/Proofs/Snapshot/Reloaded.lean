/-
This file says which saved games can be loaded. Of the codec that writes and reads their texts only
the documented facts are used. The text of a snapshot is read as the nodes of its values, and all of
them are values of their types again, except where a float is infinite or undefined. Such a float is
written as null, which is no number, and the whole text is refused for it.
-/

import Gamecode.Proofs.Json.Documents
import Gamecode.Proofs.Snapshot.Accepted
import Gamecode.Session.State

namespace Gamecode

/-! ### Values that read back -/

/-- A float is read as one exactly if it is finite. -/
theorem Codec.Documented.isFinite_iff {codec : Codec} {node : Document → codec.Node}
    (documented : codec.Documented node) {bits : Slot} :
    Number.IsFinite bits ↔ ∃ read, codec.float? (node (.float bits)) = some read := by
  refine ⟨documented.float?_finite bits, ?_⟩
  rintro ⟨read, found⟩
  refine Classical.byContradiction fun other => ?_
  rw [documented.float_of_not_finite bits other, documented.float?_null] at found
  cases found

namespace SavedValue

/-- A value all of whose floats are finite. -/
def IsFinite : SavedValue → Prop
  | float bits => Number.IsFinite bits
  | vector components =>
    Number.IsFinite components.x ∧ Number.IsFinite components.y ∧ Number.IsFinite components.z
  | string _ | entity _ | function _ => True

/-- A value whose entity, if it is one, fits a slot. -/
def FitsSlot : SavedValue → Prop
  | entity number => -0x80000000 ≤ number ∧ number < 0x80000000
  | float _ | vector _ | string _ | function _ => True

/-- A value that can be given wherever another one can. -/
structure StandsFor (read value : SavedValue) : Prop where
  type_eq : read.type = value.type
  resolves : ∀ program : Program, value.Resolves program → read.Resolves program

variable {value read : SavedValue}

theorem fitsSlot_of_valueOf {program : Program} {strings : StringHeap} {type : ValueType}
    {slots : List Slot} (known : Snapshot.valueOf program strings type slots = .ok value) :
    value.FitsSlot := by
  cases type with
  | float | vector | function =>
    cases known
    exact trivial
  | entity =>
    cases known
    exact ⟨Slot.neg_le_signed _, Slot.signed_lt _⟩
  | string =>
    obtain ⟨text, -, same⟩ := Except.bind_eq_ok_iff.mp known
    cases same
    exact trivial
  | void | field | pointer | integer | unsigned | longInteger | longUnsigned | double => cases known

theorem nestedWithin_content (value : SavedValue) (depth : Nat) :
    value.content.NestedWithin (depth + 1) := by
  cases value with
  | float bits => exact .float bits
  | vector components =>
    refine .array fun element member => ?_
    obtain ⟨bits, -, rfl⟩ := List.mem_map.mp member
    exact .float bits
  | string text | function text => exact .string text
  | entity number => exact .integer number

theorem nestedWithin_document (value : SavedValue) (depth : Nat) :
    value.document.NestedWithin (depth + 2) :=
  .object <| List.forall_mem_cons.mpr
    ⟨.string _, List.forall_mem_singleton.mpr (value.nestedWithin_content depth)⟩

section Documented

variable {codec : Codec} {node : Document → codec.Node} (documented : codec.Documented node)

include documented

/-- The components of a vector are read where they were written. -/
theorem vector?_content (components : Vector3) :
    vector? codec (node (vector components).content) = do
      return ⟨← codec.float? (node (.float components.x)),
        ← codec.float? (node (.float components.y)),
        ← codec.float? (node (.float components.z))⟩ := by
  unfold vector? content
  rw [documented.elements?_array]
  rfl

/-- Only a finite value is read where it was written. -/
theorem isFinite_of_ofContent?
    (known : ofContent? codec value.type.key (node value.content) = some read) :
    value.IsFinite := by
  cases value with
  | float bits =>
    obtain ⟨slot, found, -⟩ := Option.map_eq_some_iff.mp known
    exact documented.isFinite_iff.mpr ⟨slot, found⟩
  | vector components =>
    obtain ⟨slots, found, -⟩ := Option.map_eq_some_iff.mp known
    rw [vector?_content documented] at found
    obtain ⟨x, first, found⟩ := Option.bind_eq_some_iff.mp found
    obtain ⟨y, second, found⟩ := Option.bind_eq_some_iff.mp found
    obtain ⟨z, third, -⟩ := Option.bind_eq_some_iff.mp found
    exact ⟨documented.isFinite_iff.mpr ⟨x, first⟩, documented.isFinite_iff.mpr ⟨y, second⟩,
      documented.isFinite_iff.mpr ⟨z, third⟩⟩
  | string | entity | function => exact trivial

/-- A finite value is read where it was written, or another one that stands for it. -/
theorem exists_ofContent? (finite : value.IsFinite) (fits : value.FitsSlot) :
    ∃ read, ofContent? codec value.type.key (node value.content) = some read ∧
      read.StandsFor value := by
  cases value with
  | float bits =>
    obtain ⟨slot, found⟩ := documented.isFinite_iff.mp finite
    exact ⟨float slot, congrArg (Option.map float) found, rfl, fun _ => id⟩
  | vector components =>
    obtain ⟨x, first⟩ := documented.isFinite_iff.mp finite.1
    obtain ⟨y, second⟩ := documented.isFinite_iff.mp finite.2.1
    obtain ⟨z, third⟩ := documented.isFinite_iff.mp finite.2.2
    have found : vector? codec (node (vector components).content) = some ⟨x, y, z⟩ := by
      rw [vector?_content documented, first, second, third]
      rfl
    exact ⟨vector ⟨x, y, z⟩, congrArg (Option.map vector) found, rfl, fun _ => id⟩
  | string text =>
    exact ⟨string text, congrArg (Option.map string) (documented.text?_string text), rfl,
      fun _ => id⟩
  | entity number =>
    have found := documented.integer?_integer number fits.1 fits.2
    exact ⟨entity number, congrArg (Option.map entity) found, rfl, fun _ => id⟩
  | function name =>
    exact ⟨function name, congrArg (Option.map function) (documented.text?_string name), rfl,
      fun _ => id⟩

/-- A value that was written is read by its type. -/
theorem ofNode?_document (value : SavedValue) :
    ofNode? codec (node value.document) = ofContent? codec value.type.key (node value.content) := by
  have named : typeName? codec (node (.string value.type.key)) = some value.type.key := by
    unfold typeName?
    rw [documented.text?_string]
  unfold ofNode? document
  rw [documented.members?_object]
  change (typeName? codec (node (.string value.type.key))).bind
    (fun type => ofContent? codec type (node value.content)) = _
  rw [named]
  rfl

end Documented

end SavedValue

/-! ### Snapshots that read back -/

namespace Snapshot

section Documented

variable {codec : Codec} {node : Document → codec.Node} {entries read : List (String × SavedValue)}
  {snapshot accepted : Snapshot}

/-- The members that a snapshot is read as. -/
def members (node : Document → codec.Node) (entries : List (String × SavedValue)) :
    List (Option String × codec.Node) :=
  entries.map fun entry => (some entry.1, node entry.2.document)

/-- A written entry is read as the value of its document, before all others. -/
theorem entries?_members_cons (documented : codec.Documented node) (head : String × SavedValue)
    (rest : List (String × SavedValue)) :
    entries? codec (members node (head :: rest)) = do
      let value ← SavedValue.ofContent? codec head.2.type.key (node head.2.content)
      return (head.1, value) :: (← entries? codec (members node rest)) := by
  rw [← SavedValue.ofNode?_document documented]
  rfl

/-- Entries are read back only if all their values are finite. -/
theorem isFinite_of_entries? (documented : codec.Documented node)
    (known : entries? codec (members node entries) = some read) :
    ∀ entry ∈ entries, entry.2.IsFinite := by
  induction entries generalizing read with
  | nil => exact fun _ inside => nomatch inside
  | cons head rest inductionHypothesis =>
    rw [entries?_members_cons documented] at known
    obtain ⟨value, first, known⟩ := Option.bind_eq_some_iff.mp known
    obtain ⟨others, later, -⟩ := Option.bind_eq_some_iff.mp known
    exact List.forall_mem_cons.mpr
      ⟨SavedValue.isFinite_of_ofContent? documented first, inductionHypothesis later⟩

/-- Finite entries are read back under their names, with values that stand for their own. -/
theorem exists_entries? (documented : codec.Documented node)
    (finite : ∀ entry ∈ entries, entry.2.IsFinite) (fits : ∀ entry ∈ entries, entry.2.FitsSlot) :
    ∃ read, entries? codec (members node entries) = some read ∧
      ∀ name value, (name, value) ∈ read →
        ∃ saved, (name, saved) ∈ entries ∧ value.StandsFor saved := by
  induction entries with
  | nil => exact ⟨[], rfl, nofun⟩
  | cons head rest inductionHypothesis =>
    obtain ⟨headFinite, restFinite⟩ := List.forall_mem_cons.mp finite
    obtain ⟨headFits, restFits⟩ := List.forall_mem_cons.mp fits
    obtain ⟨value, first, stands⟩ := SavedValue.exists_ofContent? documented headFinite headFits
    obtain ⟨others, later, each⟩ := inductionHypothesis restFinite restFits
    refine ⟨(head.1, value) :: others, ?_, ?_⟩
    · rw [entries?_members_cons documented, first, later]
      rfl
    · intro name other member
      rcases List.mem_cons.mp member with same | inRest
      · cases same
        exact ⟨head.2, List.mem_cons_self, stands⟩
      · obtain ⟨saved, member, stands⟩ := each name other inRest
        exact ⟨saved, List.mem_cons_of_mem _ member, stands⟩

theorem nestedWithin_document (snapshot : Snapshot) (depth : Nat) :
    snapshot.document.NestedWithin (depth + 4) := by
  refine .object (List.forall_mem_singleton.mpr (.object fun member inside => ?_))
  obtain ⟨entry, -, rfl⟩ := List.mem_map.mp inside
  exact entry.2.nestedWithin_document depth

/-- A snapshot that was written is read entry by entry. -/
theorem ofText?_write (documented : codec.Documented node) (snapshot : Snapshot) :
    ofText? codec (codec.write snapshot.document) =
      (entries? codec (members node snapshot.entries)).map ofList := by
  have values : ofValues? codec (node (.object (snapshot.entries.map fun entry =>
      (entry.1, entry.2.document)))) =
        (entries? codec (members node snapshot.entries)).map ofList := by
    unfold ofValues? members
    rw [documented.members?_object, List.map_map]
    rfl
  unfold ofText?
  rw [documented.read?_write _ (snapshot.nestedWithin_document 123)]
  unfold document ofNode?
  rw [Option.bind_some, documented.members?_object, ← values]
  rfl

/-- A snapshot holds nothing but the values that it was made of. -/
theorem mem_ofList {entry : String × SavedValue} (member : entry ∈ (ofList entries).entries) :
    entry ∈ entries := by
  have each : ∀ snapshot : Snapshot, ∀ entry ∈
      (entries.foldl (fun snapshot entry => snapshot.insert entry.1 entry.2) snapshot).entries,
        entry ∈ entries ∨ entry ∈ snapshot.entries := by
    clear member
    induction entries with
    | nil => exact fun _ _ member => .inr member
    | cons head rest inductionHypothesis =>
      intro snapshot entry member
      rcases inductionHypothesis (snapshot.insert head.1 head.2) entry member with later | earlier
      · exact .inl (List.mem_cons_of_mem _ later)
      · rcases mem_insertSorted earlier with rfl | kept
        · exact .inl List.mem_cons_self
        · exact .inr kept
  exact (each empty entry member).resolve_right List.not_mem_nil

/-- A snapshot is read back only if all its values are finite. -/
theorem isFinite_of_ofText? (documented : codec.Documented node)
    (known : ofText? codec (codec.write snapshot.document) = some accepted) :
    ∀ entry ∈ snapshot.entries, entry.2.IsFinite := by
  rw [ofText?_write documented] at known
  obtain ⟨read, found, -⟩ := Option.map_eq_some_iff.mp known
  exact isFinite_of_entries? documented found

/-- A finite snapshot is read back with values that stand for its own. -/
theorem exists_ofText? (documented : codec.Documented node)
    (finite : ∀ entry ∈ snapshot.entries, entry.2.IsFinite)
    (fits : ∀ entry ∈ snapshot.entries, entry.2.FitsSlot) :
    ∃ accepted, ofText? codec (codec.write snapshot.document) = some accepted ∧
      ∀ name value, (name, value) ∈ accepted.entries →
        ∃ saved, (name, saved) ∈ snapshot.entries ∧ value.StandsFor saved := by
  obtain ⟨read, found, stands⟩ := exists_entries? documented finite fits
  refine ⟨ofList read, ?_, fun name value member => stands name value (mem_ofList member)⟩
  rw [ofText?_write documented, found]
  rfl

end Documented

/-- Each entry of a snapshot holds the value of a saved global of its name. -/
theorem exists_saves_of_mem {program : Program} {machine : Machine} {snapshot : Snapshot}
    {entry : String × SavedValue}
    (taken : ofGlobals program machine = .ok snapshot) (member : entry ∈ snapshot.entries) :
    ∃ global, program.Saves global ∧ global.name = entry.1 ∧
      global.read program machine = .ok entry.2 := by
  obtain ⟨global, last, held⟩ := (mem_ofGlobals_iff taken).mp member
  obtain ⟨saves, named⟩ := Program.lastSaved?_some last
  exact ⟨global, saves, named, held⟩

end Snapshot

/-! ### Saved games -/

/-- No two global definitions have one name, those without a name apart. -/
def Program.NamesGlobalsApart (program : Program) : Prop :=
  ∀ first ∈ program.globalDefinitions, ∀ second ∈ program.globalDefinitions,
    program.nameText first.name = program.nameText second.name →
      program.nameText first.name ≠ "" → first = second

section Distinct

variable {program : Program} {global : SavedGlobal}

/-- Under distinct names, a saved global is found by its name. -/
theorem Program.NamesGlobalsApart.findGlobal? (apart : program.NamesGlobalsApart)
    (saves : program.Saves global) : program.findGlobal? global.name = some global.definition := by
  have named : program.isNamed global.definition.name global.name = true := by
    unfold Program.isNamed
    rw [Bool.and_eq_true, decide_eq_true_eq, decide_eq_true_eq]
    exact ⟨saves.named, saves.name_eq⟩
  obtain ⟨first, found⟩ : ∃ first, program.findGlobal? global.name = some first :=
    Option.isSome_iff_exists.mp (Array.find?_isSome.mpr ⟨global.definition, saves.mem, named⟩)
  obtain ⟨member, same, nonempty⟩ := Program.findGlobal?_some found
  rw [apart global.definition saves.mem first member (saves.name_eq.trans same.symm)
    (saves.name_eq.symm ▸ nonempty)]
  exact found

/-- Under distinct names, a saved global is the last one of its name. -/
theorem Program.NamesGlobalsApart.lastSaved? (apart : program.NamesGlobalsApart)
    (saves : program.Saves global) : program.lastSaved? global.name = some global := by
  obtain ⟨last, found⟩ := Program.exists_lastSaved? saves
  obtain ⟨lastSaves, named⟩ := Program.lastSaved?_some found
  have first := apart.findGlobal? lastSaves
  rw [named, apart.findGlobal? saves] at first
  rw [found, saves.eq_of_definition lastSaves (Option.some.inj first).symm]

end Distinct

namespace Session

variable {image : Array UInt8} {expectation : Image.Expectation} {configuration : Configuration}
  {fresh session : Session} {codec : Codec} {text : String}

theorem load_eq_ok (loaded : load image expectation configuration = .ok fresh) :
    Image.load image expectation = .ok fresh.program ∧
      fresh.machine = .create fresh.program configuration := by
  obtain ⟨program, read, same⟩ := Except.bind_eq_ok_iff.mp loaded
  cases same
  exact ⟨read, rfl⟩

/-- A text is saved exactly if a snapshot can be taken, whose text it then is. -/
theorem saveGlobalsWith_eq_ok_iff :
    session.saveGlobalsWith codec = .ok text ↔
      ∃ snapshot, Snapshot.ofGlobals session.program session.machine = .ok snapshot ∧
        codec.write snapshot.document = text := by
  unfold saveGlobalsWith
  cases taken : Snapshot.ofGlobals session.program session.machine with
  | error fault => exact iff_of_false nofun nofun
  | ok snapshot =>
    refine ⟨fun same => ⟨snapshot, rfl, Except.ok.inj same⟩, ?_⟩
    rintro ⟨_, ⟨⟩, rfl⟩
    rfl

/-- A text is loaded exactly if it is that of a snapshot, and the snapshot is accepted. -/
theorem loadGlobalsWith_eq_ok_iff :
    (session.loadGlobalsWith codec text).1 = .ok () ↔
      ∃ snapshot, Snapshot.ofText? codec text = some snapshot ∧
        ∃ after, Snapshot.applyToGlobals session.program snapshot session.machine =
          .ok () after := by
  unfold loadGlobalsWith act
  cases known : Snapshot.ofText? codec text with
  | none => exact iff_of_false nofun nofun
  | some snapshot =>
    dsimp only
    cases applied : Snapshot.applyToGlobals session.program snapshot session.machine with
    | ok _ after => exact iff_of_true rfl ⟨snapshot, rfl, after, applied⟩
    | error fault after =>
      refine iff_of_false nofun ?_
      rintro ⟨_, ⟨⟩, other, ends⟩
      exact nomatch applied.symm.trans ends

theorem program_callNamed (session : Session) (name : String) (arguments : List Value) :
    (session.callNamed name arguments).2.program = session.program := by
  unfold callNamed
  split <;> rfl

/-- A saved game can be loaded into a fresh session of its program exactly if none of the floats
that it holds is infinite or undefined. -/
theorem loadGlobals_saveGlobals_iff {node : Document → codec.Node}
    (documented : codec.Documented node)
    (loaded : load image expectation configuration = .ok fresh)
    (apart : fresh.program.NamesGlobalsApart) (same : session.program = fresh.program)
    (saved : session.saveGlobalsWith codec = .ok text) :
    (fresh.loadGlobalsWith codec text).1 = .ok () ↔
      ∀ global value, fresh.program.Saves global →
        global.read fresh.program session.machine = .ok value → value.IsFinite := by
  obtain ⟨read, created⟩ := load_eq_ok loaded
  have fits := Image.definitionsFit_of_load read
  have sized : fresh.machine.globals.size = fresh.program.globals.size := by
    rw [created]
    rfl
  obtain ⟨snapshot, taken, rfl⟩ := saveGlobalsWith_eq_ok_iff.mp saved
  rw [same] at taken
  rw [loadGlobalsWith_eq_ok_iff]
  constructor
  · rintro ⟨accepted, known, -⟩ global value saves held
    obtain ⟨other, otherHeld, member⟩ :=
      Snapshot.exists_mem_ofGlobals taken (apart.lastSaved? saves)
    have alike : other = value := Except.ok.inj (otherHeld.symm.trans held)
    exact alike ▸ Snapshot.isFinite_of_ofText? documented known _ member
  · intro finite
    have allFinite : ∀ entry ∈ snapshot.entries, entry.2.IsFinite := by
      intro entry member
      obtain ⟨global, saves, -, held⟩ := Snapshot.exists_saves_of_mem taken member
      exact finite global entry.2 saves held
    have allFit : ∀ entry ∈ snapshot.entries, entry.2.FitsSlot := by
      intro entry member
      obtain ⟨_, -, -, held⟩ := Snapshot.exists_saves_of_mem taken member
      obtain ⟨slots, -, known⟩ := Except.bind_eq_ok_iff.mp held
      exact SavedValue.fitsSlot_of_valueOf known
    obtain ⟨accepted, known, stands⟩ := Snapshot.exists_ofText? documented allFinite allFit
    refine ⟨accepted, known, ?_⟩
    refine (Snapshot.forM_applyGlobal_iff fits sized).mpr fun name value member => ?_
    obtain ⟨original, member, stands⟩ := stands name value member
    obtain ⟨global, saves, rfl, held⟩ := Snapshot.exists_saves_of_mem taken member
    obtain ⟨slots, -, known⟩ := Except.bind_eq_ok_iff.mp held
    refine ⟨global.definition, apart.findGlobal? saves, saves.persistent, ?_, ?_⟩
    · rw [saves.type_eq, stands.type_eq, Snapshot.type_of_valueOf known]
    · exact stands.resolves _ (Snapshot.resolves_of_valueOf known)

end Session

namespace Division

/-- A program whose main function divides one by a given number, into the persistent float `x`. -/
def program (divisor : Slot) : Program :=
  { header :=
      { version := 6
        checksum := 0
        statements := ⟨60, 3⟩
        globalDefinitions := ⟨84, 2⟩
        fieldDefinitions := ⟨100, 0⟩
        functions := ⟨100, 2⟩
        strings := ⟨172, 8⟩
        globals := ⟨180, 32⟩
        entityFields := 0 }
    statements := #[⟨0, 0, 0, 0⟩, ⟨5, 29, 30, 28⟩, ⟨0, 0, 0, 0⟩]
    globalDefinitions := #[⟨0x8002, 28, 1⟩, ⟨6, 31, 3⟩]
    fieldDefinitions := #[]
    functions := #[⟨0, 0, 0, 0, 0, 0, [], false⟩, ⟨1, 32, 0, 0, 3, 0, [], false⟩]
    strings := #[0, 0x78, 0, 0x6D, 0x61, 0x69, 0x6E, 0]
    globals := Array.replicate 29 0 ++ #[0x3F800000, divisor, 1]
    entityFields := 0 }

def fresh (divisor : Slot) : Session :=
  (Session.create (program divisor) .standard).withBuiltins (Builtins.install (program divisor))

/-- The session after a call of the main function. -/
def played (divisor : Slot) : Session :=
  ((fresh divisor).callNamed "main" []).2

/-- What is saved after the call. -/
def snapshot (divisor : Slot) : Snapshot :=
  ⟨[("x", .float (Slot.divide 0x3F800000 divisor))]⟩

variable {divisor : Slot}

theorem loaded (either : divisor = 0 ∨ divisor = 0x3F800000) :
    Session.load (Image.save (program divisor)) .none .standard = .ok (fresh divisor) := by
  have read : Image.load (Image.save (program divisor)) .none = .ok (program divisor) := by
    rcases either with rfl | rfl <;>
      exact Image.load_save_of_check (by decide +kernel) (by decide) (by decide)
  unfold Session.load
  rw [read]
  rfl

theorem apart (divisor : Slot) : (fresh divisor).program.NamesGlobalsApart := by
  show ∀ first ∈ (program 0).globalDefinitions, ∀ second ∈ (program 0).globalDefinitions,
    (program 0).nameText first.name = (program 0).nameText second.name →
      (program 0).nameText first.name ≠ "" → first = second
  decide

theorem called (either : divisor = 0 ∨ divisor = 0x3F800000) :
    ((fresh divisor).callNamed "main" []).1 = .ok ⟨0, 0, 0⟩ := by
  refine Except.eq_ok_of_toOption ?_
  rcases either with rfl | rfl <;> decide +kernel

theorem taken (either : divisor = 0 ∨ divisor = 0x3F800000) :
    Snapshot.ofGlobals (program divisor) (played divisor).machine = .ok (snapshot divisor) := by
  refine Except.eq_ok_of_toOption ?_
  rcases either with rfl | rfl <;> decide +kernel

theorem program_played (divisor : Slot) : (played divisor).program = (fresh divisor).program :=
  Session.program_callNamed (fresh divisor) "main" []

theorem saved (codec : Codec) (either : divisor = 0 ∨ divisor = 0x3F800000) :
    (played divisor).saveGlobalsWith codec = .ok (codec.write (snapshot divisor).document) :=
  Session.saveGlobalsWith_eq_ok_iff.mpr ⟨_, program_played divisor ▸ taken either, rfl⟩

end Division

namespace Session

/-- One divided by itself is finite, so the saved game can be loaded. -/
theorem loadGlobals_saveGlobals_iff_finite :
    Json.codec.Documented Document.node ∧
      load (Image.save (Division.program 0x3F800000)) .none .standard =
        .ok (Division.fresh 0x3F800000) ∧
      (Division.fresh 0x3F800000).program.NamesGlobalsApart ∧
      (Division.played 0x3F800000).program = (Division.fresh 0x3F800000).program ∧
      (Division.played 0x3F800000).saveGlobals =
        .ok (Division.snapshot 0x3F800000).document.pretty ∧
      ((Division.fresh 0x3F800000).loadGlobals
        (Division.snapshot 0x3F800000).document.pretty).1 = .ok () := by
  have documented := Json.documented_codec
  have loaded := Division.loaded (.inr rfl)
  have apart := Division.apart 0x3F800000
  have same := Division.program_played 0x3F800000
  have saved := Division.saved Json.codec (.inr rfl)
  refine ⟨documented, loaded, apart, same, saved, ?_⟩
  refine (loadGlobals_saveGlobals_iff documented loaded apart same saved).mpr ?_
  intro global value saves held
  obtain ⟨other, otherHeld, member⟩ :=
    Snapshot.exists_mem_ofGlobals (Division.taken (.inr rfl)) (apart.lastSaved? saves)
  have alike : other = value := Except.ok.inj (otherHeld.symm.trans held)
  have finite : Number.IsFinite (Slot.divide 0x3F800000 0x3F800000) :=
    ⟨false, ⟨0x800000, -23⟩, by decide⟩
  obtain ⟨-, divided⟩ := Prod.mk.inj (List.mem_singleton.mp (alike ▸ member))
  rw [divided]
  exact finite

/-- One divided by zero is infinite. The game is saved all the same, and then it cannot be loaded,
with whatever codec. -/
theorem saved_infinity_refused :
    load (Image.save (Division.program 0)) .none .standard = .ok (Division.fresh 0) ∧
      (Division.fresh 0).program.NamesGlobalsApart ∧
      (Division.fresh 0).callNamed "main" [] = (.ok ⟨0, 0, 0⟩, Division.played 0) ∧
      ∀ (codec : Codec) (node : Document → codec.Node), codec.Documented node →
        ∃ text, (Division.played 0).saveGlobalsWith codec = .ok text ∧
          (Division.fresh 0).loadGlobalsWith codec text =
            (.error .malformed, Division.fresh 0) := by
  refine ⟨Division.loaded (.inl rfl), Division.apart 0, ?_, fun codec node documented => ?_⟩
  · exact Prod.ext (Division.called (.inl rfl)) rfl
  · have infinite : ¬ Number.IsFinite (Slot.divide 0x3F800000 0) := by
      have known : Number.denote (Slot.divide 0x3F800000 0) = .infinite false := by decide
      rintro ⟨negative, size, finite⟩
      exact nomatch known.symm.trans finite
    have refused :
        Snapshot.ofText? codec (codec.write (Division.snapshot 0).document) = none := by
      refine Option.eq_none_iff_forall_ne_some.mpr fun accepted known => infinite ?_
      exact Snapshot.isFinite_of_ofText? documented known _ List.mem_cons_self
    refine ⟨_, Division.saved codec (.inl rfl), ?_⟩
    unfold loadGlobalsWith
    rw [refused]

end Session

end Gamecode
