import Mathlib.Algebra.Group.Nat.Defs
import PvpDuel.Client.Settings

/-!
# What a settings file holds

After every operation of `Save` the file is the old one or the new one, and `Load` gives back what was
saved. It also accepts some versions that are too large for their type.
-/

namespace PvpDuel.Client

open Files (Program Op exec Disk OpOutcome)

/-! ### Saving -/

/-- What the file can hold during `Save`. -/
def OldOrNew (before : Option (List Char)) (serialized : List Char) (disk : Disk SettingsFile Char) :
    Prop :=
  disk .path = before ∨ disk .path = some serialized

/-- How `Save` ends. -/
def Settles (before : Option (List Char)) (serialized : List Char) (result : SettingsSaveResult)
    (disk : Disk SettingsFile Char) : Prop :=
  disk .path = if result.ok then some serialized else before

section Saving

variable {before : Option (List Char)} {serialized : List Char} {disk : Disk SettingsFile Char}

theorem ensures_of_path {op : Op SettingsFile Char} (hop : SettingsFile.path ∉ op.paths)
    {next : Bool → Program (Op SettingsFile Char) SettingsSaveResult} (hdisk : disk .path = before)
    (hnext : ∀ outcome, (exec op outcome disk).2 .path = before →
      (next (exec op outcome disk).1).Ensures exec (OldOrNew before serialized)
        (Settles before serialized) (exec op outcome disk).2) :
    (Program.call op next).Ensures exec (OldOrNew before serialized) (Settles before serialized)
      disk := by
  refine .of_call fun outcome => ?_
  have hkept := (Files.exec_of_notMem hop outcome disk).trans hdisk
  exact ⟨.inl hkept, hnext outcome hkept⟩

theorem ensures_cleanup (hdisk : disk .path = before) (error : String) :
    (Program.call (Op.remove SettingsFile.temporary) fun _ =>
      .done (⟨false, error⟩ : SettingsSaveResult)).Ensures exec (OldOrNew before serialized)
      (Settles before serialized) disk :=
  ensures_of_path (by simp [Op.paths]) hdisk fun _ hkept => .of_done hkept

theorem ensures_rename (hdisk : disk .path = before) (htemporary : disk .temporary = some serialized) :
    (Program.call (Op.rename SettingsFile.temporary SettingsFile.path) fun replaced =>
      if replaced then .done (⟨true, ""⟩ : SettingsSaveResult)
      else
        .call (.remove .temporary) fun _ =>
          .done ⟨false, "Could not atomically replace settings file"⟩).Ensures exec
      (OldOrNew before serialized) (Settles before serialized) disk := by
  refine .of_call fun outcome => ?_
  obtain ⟨content, hcontent, hexec⟩ | hexec :=
    Files.exec_rename SettingsFile.temporary SettingsFile.path outcome disk
  · obtain rfl : serialized = content := Option.some.inj (htemporary.symm.trans hcontent)
    rw [hexec, if_pos rfl]
    have hnew := Function.update_self SettingsFile.path (some serialized)
      (Function.update disk SettingsFile.temporary none)
    exact ⟨.inr hnew, .of_done hnew⟩
  · rw [hexec, if_neg Bool.false_ne_true]
    exact ⟨.inl hdisk, ensures_cleanup hdisk _⟩

theorem ensures_replaceFile (hdisk : disk .path = before) :
    (replaceFile serialized).Ensures exec (OldOrNew before serialized) (Settles before serialized)
      disk := by
  apply ensures_of_path (by simp [Op.paths]) hdisk
  intro outcome hremoved
  apply ensures_of_path (by simp [Op.paths]) hremoved
  intro outcome hopened
  obtain hexec | hexec := Files.exec_truncate SettingsFile.temporary outcome
    (exec (.remove .temporary) _ disk).2
  · rw [hexec] at hopened ⊢
    refine ensures_of_path (by simp [Op.paths]) hopened fun outcome hwritten => ?_
    obtain hexec | hexec := Files.exec_write_flushed SettingsFile.temporary serialized outcome
      (Function.update _ SettingsFile.temporary (some []))
    · rw [hexec] at hwritten ⊢
      exact ensures_rename hwritten (by simp)
    · simp only [hexec, Bool.false_eq_true, if_false]
      exact ensures_cleanup hwritten _
  · rw [hexec] at hopened ⊢
    exact .of_done hopened

theorem ensures_save (json : JsonLibrary) (hasParent : Bool) (message : String) (settings : Settings)
    (disk : Disk SettingsFile Char) :
    (save json hasParent message settings).Ensures exec
      (OldOrNew (disk .path) (settings.text json))
      (fun result after => Settles (disk .path) (settings.text json) result after ∧
        (result.ok = true → settings.schemaVersion = kSettingsSchemaVersion ∧ Complete settings.bindings))
      disk := by
  unfold save
  cases hserialized : serializeSettings json settings with
  | error error => exact .of_done ⟨rfl, fun h => absurd h Bool.false_ne_true⟩
  | ok serialized =>
      obtain ⟨hversion, hcomplete, rfl⟩ := serializeSettings_eq_ok hserialized
      have hvalid : ∀ result after, Settles (disk .path) (settings.text json) result after →
          Settles (disk .path) (settings.text json) result after ∧ (result.ok = true →
            settings.schemaVersion = kSettingsSchemaVersion ∧ Complete settings.bindings) :=
        fun _ _ hsettles => ⟨hsettles, fun _ => ⟨hversion, hcomplete⟩⟩
      by_cases hparent : hasParent = true
      · simp only [hparent, if_true]
        refine (ensures_of_path (by simp [Op.paths]) rfl fun outcome hcreated => ?_).imp hvalid
        split
        · exact ensures_replaceFile hcreated
        · exact .of_done hcreated
      · simp only [hparent]
        exact (ensures_replaceFile rfl).imp hvalid

end Saving

/-! ### Loading -/

section Loading

variable {json : JsonLibrary} {existenceError : Bool} {text : List Char} {document : Json}

theorem load_of_ok (hparse : json.parse text = .ok document) {settings : Settings}
    (h : parseSettings document = .ok settings) :
    load json true existenceError (some text) = ⟨settings, false, ""⟩ := by
  simp [load, hparse, h]

theorem load_of_error (hparse : json.parse text = .ok document)
    (h : ∀ settings, parseSettings document ≠ .ok settings) :
    (load json true existenceError (some text)).settings = Settings.defaults ∧
      (load json true existenceError (some text)).usedDefaults = true ∧
      (load json true existenceError (some text)).warning ≠ "" := by
  cases hparsed : parseSettings document with
  | ok settings => exact absurd hparsed (h settings)
  | error message => simp [load, hparse, hparsed]

/-- The bindings of the file are used if it has the form of a settings file, and otherwise the defaults,
with a warning. -/
def LoadsExactly (document : Json) (result : SettingsLoadResult) : Prop :=
  (∀ bindings, Lists document 1 bindings →
    result = ⟨⟨kSettingsSchemaVersion, bindings⟩, false, ""⟩) ∧
  ((∀ bindings, ¬ Lists document 1 bindings) →
    result.settings = Settings.defaults ∧ result.usedDefaults = true ∧ result.warning ≠ "")

/-- The document would be one of settings, but for a version that is another one modulo `2 ^ 32`. -/
def Wraps (document : Json) : Prop :=
  ∃ (version : UInt64) (bindings : List Binding),
    version ≠ 1 ∧ version.toNat % 2 ^ 32 = 1 ∧ Lists document version bindings

theorem toUInt32_eq_one {version : UInt64} :
    version.toUInt32 = kSettingsSchemaVersion ↔ version.toNat % 2 ^ 32 = 1 := by
  rw [← UInt32.toNat_inj, UInt64.toNat_toUInt32]
  rfl

theorem Lists.version_eq {version other : UInt64} {bindings others : List Binding}
    (h : Lists document version bindings) (h' : Lists document other others) : version = other := by
  obtain ⟨members, values, rfl, -, hversion, -⟩ := h
  obtain ⟨members', values', heq, -, hversion', -⟩ := h'
  rw [Json.object.injEq] at heq
  rw [heq, hversion'] at hversion
  exact (Json.unsigned.inj (Option.some.inj hversion)).symm

theorem loadsExactly_iff (hparse : json.parse text = .ok document) :
    LoadsExactly document (load json true existenceError (some text)) ↔ ¬ Wraps document := by
  constructor
  · rintro hexact ⟨version, bindings, hne, hmod, hlists⟩
    have hloaded : load json true existenceError (some text) =
        ⟨⟨kSettingsSchemaVersion, bindings⟩, false, ""⟩ :=
      load_of_ok hparse (parseSettings_eq_ok.2 ⟨version, toUInt32_eq_one.2 hmod, hlists, rfl⟩)
    have hdefaults := hexact.2 fun others hone => hne (hlists.version_eq hone)
    rw [hloaded] at hdefaults
    exact hdefaults.2.2 rfl
  · intro hwraps
    refine ⟨fun bindings hlists => ?_, fun hnone => load_of_error hparse fun settings hsettings => ?_⟩
    · exact load_of_ok hparse (parseSettings_eq_ok.2 ⟨1, rfl, hlists, rfl⟩)
    · obtain ⟨version, hversion, hlists, -⟩ := parseSettings_eq_ok.1 hsettings
      have hone : version = 1 := by
        by_contra hne
        exact hwraps ⟨version, settings.bindings, hne, toUInt32_eq_one.1 hversion, hlists⟩
      exact hnone settings.bindings (hone ▸ hlists)

end Loading

/-- Whatever fails, and wherever it stops, `Save` leaves the old file or the new one, with an error the
old one, and without an error a file that loads as it was saved. `Load` accepts exactly the form of a
settings file, but for versions that are too large. -/
theorem settings_persist_iff (json : JsonLibrary) (hasParent existenceError : Bool) (message : String)
    (settings : Settings) (disk : Disk SettingsFile Char) (outcomes : ℕ → OpOutcome)
    {text : List Char} {document : Json}
    (hdump : json.parse (settings.text json) = .ok settings.document)
    (hparse : json.parse text = .ok document) :
    (∀ t ∈ (save json hasParent message settings).states exec outcomes disk,
      t .path = disk .path ∨ t .path = some (settings.text json)) ∧
    (∀ result after, (save json hasParent message settings).result exec outcomes disk = (result, after) →
      (result.ok = false → after .path = disk .path) ∧
      (result.ok = true → load json true existenceError (after .path) = ⟨settings, false, ""⟩)) ∧
    (LoadsExactly document (load json true existenceError (some text)) ↔ ¬ Wraps document) := by
  obtain ⟨hstates, hresult⟩ := ensures_save json hasParent message settings disk outcomes
  refine ⟨hstates, fun result after hsaved => ?_, loadsExactly_iff hparse⟩
  rw [hsaved] at hresult
  obtain ⟨hsettles, hvalid⟩ : Settles (disk .path) (settings.text json) result after ∧ _ := hresult
  constructor
  · intro hfailed
    rw [Settles, hfailed] at hsettles
    exact hsettles
  · intro hok
    obtain ⟨hversion, hcomplete⟩ := hvalid hok
    rw [Settles, hok, if_pos rfl] at hsettles
    rw [hsettles]
    refine load_of_ok hdump (parseSettings_eq_ok.2 ⟨_, ?_, lists_document hcomplete, hversion⟩)
    rw [hversion]
    rfl

/-! ### A library on the files of settings -/

def entryText : Json → List Char
  | .object [(_, .string action), (_, .string input)] =>
      "    \x7b\n      \"action\": \"".toList ++ action.toList ++ "\",\n      \"input\": \"".toList ++
        input.toList ++ "\"\n    \x7d".toList
  | _ => []

/-- The text of documents of the form that is saved. -/
def dumpSettings : Json → List Char
  | .object [(_, .array values), (_, .unsigned version)] =>
      "\x7b\n  \"bindings\": [\n".toList ++ List.intercalate ",\n".toList (values.map entryText) ++
        "\n  ],\n  \"schema_version\": ".toList ++ Nat.toDigits 10 version.toNat ++ "\n\x7d".toList
  | _ => []

/-- The default bindings, but for the key to move up. -/
def rebound : List Binding := InputBindings.assign .moveUp .arrowUp InputBindings.defaults.bindings

/-- A document with a version beyond those of the type `std::uint32_t`. -/
def wrappingDocument : Json :=
  .object [("bindings", .array (rebound.map bindingDocument)), ("schema_version", .unsigned 4294967297)]

/-- What the library does on the saved defaults and on that document. -/
def defaultsLibrary : JsonLibrary where
  dump := dumpSettings
  parse text :=
    if text = dumpSettings Settings.defaults.document ++ ['\n'] then .ok Settings.defaults.document
    else if text = dumpSettings wrappingDocument then .ok wrappingDocument
    else .error "parse error"

theorem parse_defaults :
    defaultsLibrary.parse (Settings.defaults.text defaultsLibrary) = .ok Settings.defaults.document := by
  simp only [defaultsLibrary, Settings.text, if_true]

theorem parse_wrapping :
    defaultsLibrary.parse (dumpSettings wrappingDocument) = .ok wrappingDocument := by
  have hne : dumpSettings wrappingDocument ≠ dumpSettings Settings.defaults.document ++ ['\n'] := by
    decide +kernel
  simp only [defaultsLibrary, if_neg hne, if_true]

theorem settings_persist_iff_defaults :
    load defaultsLibrary true false (((save defaultsLibrary true "" Settings.defaults).result exec
      (fun _ => .done) fun _ => none).2 .path) = ⟨Settings.defaults, false, ""⟩ :=
  have hsaved : ((save defaultsLibrary true "" Settings.defaults).result exec
      (fun _ => .done) fun _ => none).1.ok = true := by decide +kernel
  ((settings_persist_iff defaultsLibrary true false "" Settings.defaults (fun _ => none)
    (fun _ => .done) parse_defaults parse_defaults).2.1 _ _ (Prod.eta _).symm).2 hsaved

theorem wrapping_version_accepted :
    load defaultsLibrary true false (some (dumpSettings wrappingDocument)) =
        ⟨⟨kSettingsSchemaVersion, rebound⟩, false, ""⟩ ∧
      ∀ bindings, ¬ Lists wrappingDocument 1 bindings := by
  have hentries : List.Forall₂ IsEntry (rebound.map bindingDocument) rebound := by
    rw [List.forall₂_map_left_iff, List.forall₂_same]
    exact fun binding _ => ⟨_, rfl, by simp, rfl, rfl⟩
  have hcomplete : Complete rebound := ⟨fun action => by cases action <;> decide, by decide⟩
  have hlists : Lists wrappingDocument 4294967297 rebound :=
    ⟨_, _, rfl, by simp, rfl, rfl, hentries, hcomplete⟩
  refine ⟨load_of_ok parse_wrapping (parseSettings_eq_ok.2 ⟨_, by decide, hlists, rfl⟩),
    fun bindings hone => ?_⟩
  exact absurd (hlists.version_eq hone) (by decide)

end PvpDuel.Client
