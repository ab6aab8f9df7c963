import Mathlib.Data.Rat.Defs
import PvpDuel.Client.Bindings
import PvpDuel.Lib.Files

/-!
# The settings file

`SettingsStore`. The bindings are kept as a JSON document, which `Load` accepts only in the form that
`Save` writes; a new document replaces the old one by a rename.
-/

namespace PvpDuel.Client

open Files (Program Op exec Disk OpOutcome)

/-! ### The document -/

/-- A value of the JSON library. A number is signed if its text has a minus sign, and a fraction or too
large a number is floating. -/
inductive Json
  | null
  | boolean (value : Bool)
  | integer (value : Int64)
  | unsigned (value : UInt64)
  | float (value : ℚ)
  | string (value : String)
  | array (values : List Json)
  | object (members : List (String × Json))

structure JsonLibrary where
  dump : Json → List Char
  parse : List Char → Except String Json

def kSettingsSchemaVersion : UInt32 := 1

structure Settings where
  schemaVersion : UInt32
  bindings : List Binding
deriving DecidableEq, Repr

def Settings.defaults : Settings := ⟨kSettingsSchemaVersion, InputBindings.defaults.bindings⟩

def hasOnlyKeys (members : List (String × Json)) (allowed : List String) : Bool :=
  members.all fun entry => allowed.any fun candidate => entry.1 = candidate

def parseBinding : Json → Except String Binding
  | .object members =>
      if hasOnlyKeys members ["action", "input"] = false then .error "invalid binding entry"
      else
        match members.lookup "action", members.lookup "input" with
        | some (.string action), some (.string input) =>
            match parseAction action, parseInputCode input with
            | some action, some input => .ok ⟨action, input⟩
            | _, _ => .error "unknown action or input code"
        | _, _ => .error "invalid binding entry"
  | _ => .error "invalid binding entry"

def parseSettings : Json → Except String Settings
  | .object members =>
      if hasOnlyKeys members ["schema_version", "bindings"] = false then
        .error "settings root contains unsupported fields"
      else
        match members.lookup "schema_version" with
        | some (.unsigned version) =>
            if version.toUInt32 ≠ kSettingsSchemaVersion then
              .error "unsupported settings schema version"
            else
              match members.lookup "bindings" with
              | some (.array values) =>
                  match values.mapM parseBinding with
                  | .error message => .error message
                  | .ok bindings =>
                      match validate bindings with
                      | .error message => .error message
                      | .ok () => .ok ⟨kSettingsSchemaVersion, bindings⟩
              | _ => .error "settings bindings must be an array"
        | _ => .error "unsupported settings schema version"
  | _ => .error "settings root contains unsupported fields"

def bindingDocument (binding : Binding) : Json :=
  .object [("action", .string (actionName binding.action)),
    ("input", .string (inputCodeName binding.input))]

/-- The members of an object are in the order of their keys. -/
def Settings.document (settings : Settings) : Json :=
  .object [("bindings", .array (settings.bindings.map bindingDocument)),
    ("schema_version", .unsigned settings.schemaVersion.toUInt64)]

def serializeSettings (json : JsonLibrary) (settings : Settings) : Except String (List Char) :=
  if settings.schemaVersion ≠ kSettingsSchemaVersion then .error "unsupported settings schema version"
  else
    match validate settings.bindings with
    | .error message => .error message
    | .ok () => .ok (json.dump settings.document ++ ['\n'])

/-! ### The store -/

structure SettingsLoadResult where
  settings : Settings
  usedDefaults : Bool
  warning : String
deriving DecidableEq, Repr

structure SettingsSaveResult where
  ok : Bool
  error : String
deriving DecidableEq, Repr

inductive SettingsFile
  | path
  | temporary
deriving DecidableEq, Repr

/-- `Load`; whether a file that is there can be opened, and whether asking for it fails, is up to the
system. -/
def load (json : JsonLibrary) (isOpen existenceError : Bool) (file : Option (List Char)) :
    SettingsLoadResult :=
  match if isOpen then file else none with
  | none =>
      if file = none ∧ existenceError = false then ⟨Settings.defaults, false, ""⟩
      else ⟨Settings.defaults, true, "Settings could not be opened; defaults are active"⟩
  | some text =>
      match json.parse text with
      | .error message =>
          ⟨Settings.defaults, true, "Invalid settings; defaults are active: " ++ message⟩
      | .ok document =>
          match parseSettings document with
          | .error message =>
              ⟨Settings.defaults, true, "Invalid settings; defaults are active: " ++ message⟩
          | .ok settings => ⟨settings, false, ""⟩

/-- The part of `Save` after the directory is there. -/
def replaceFile (serialized : List Char) : Program (Op SettingsFile Char) SettingsSaveResult :=
  .call (.remove .temporary) fun _ =>
  .call (.truncate .temporary) fun opened =>
    if opened then
      .call (.write .temporary serialized true) fun good =>
        if good then
          .call (.rename .temporary .path) fun replaced =>
            if replaced then .done ⟨true, ""⟩
            else
              .call (.remove .temporary) fun _ =>
                .done ⟨false, "Could not atomically replace settings file"⟩
        else
          .call (.remove .temporary) fun _ =>
            .done ⟨false, "Could not write temporary settings file"⟩
    else .done ⟨false, "Could not open temporary settings file"⟩

/-- `Save`; the path has a parent or none, and `message` is what the system says of a directory that it
could not create. -/
def save (json : JsonLibrary) (hasParent : Bool) (message : String) (settings : Settings) :
    Program (Op SettingsFile Char) SettingsSaveResult :=
  match serializeSettings json settings with
  | .error error => .done ⟨false, error⟩
  | .ok serialized =>
      if hasParent then
        .call .createDirectories fun created =>
          if created then replaceFile serialized
          else .done ⟨false, "Could not create settings directory: " ++ message⟩
      else replaceFile serialized

/-! ### What is accepted -/

def IsEntry (value : Json) (binding : Binding) : Prop :=
  ∃ members, value = .object members ∧ (∀ entry ∈ members, entry.1 = "action" ∨ entry.1 = "input") ∧
    members.lookup "action" = some (.string (actionName binding.action)) ∧
    members.lookup "input" = some (.string (inputCodeName binding.input))

/-- The document is an object with a version and bindings, and nothing else. -/
def Lists (document : Json) (version : UInt64) (bindings : List Binding) : Prop :=
  ∃ members values, document = .object members ∧
    (∀ entry ∈ members, entry.1 = "schema_version" ∨ entry.1 = "bindings") ∧
    members.lookup "schema_version" = some (.unsigned version) ∧
    members.lookup "bindings" = some (.array values) ∧
    List.Forall₂ IsEntry values bindings ∧ Complete bindings

theorem hasOnlyKeys_pair {members : List (String × Json)} {first second : String} :
    hasOnlyKeys members [first, second] = true ↔
      ∀ entry ∈ members, entry.1 = first ∨ entry.1 = second := by
  simp [hasOnlyKeys, List.all_eq_true]

theorem parseBinding_eq_ok {value : Json} {binding : Binding} :
    parseBinding value = .ok binding ↔ IsEntry value binding := by
  constructor
  · intro h
    unfold parseBinding at h
    split at h
    · rename_i members
      split at h
      · exact absurd h (by simp)
      · rename_i hkeys
        split at h
        · rename_i action input haction hinput
          split at h
          · rename_i parsed code hparsed hcode
            obtain rfl := Except.ok.inj h
            refine ⟨members, rfl, hasOnlyKeys_pair.1 (eq_true_of_ne_false hkeys), ?_, ?_⟩
            · rw [haction, parseAction_eq_some.1 hparsed]
            · rw [hinput, parseInputCode_eq_some.1 hcode]
          · exact absurd h (by simp)
        · exact absurd h (by simp)
    · exact absurd h (by simp)
  · rintro ⟨members, rfl, hkeys, haction, hinput⟩
    rw [parseBinding, if_neg (by simp [hasOnlyKeys_pair.2 hkeys])]
    simp only [haction, hinput, parseAction_actionName, parseInputCode_inputCodeName]

theorem mapM_eq_ok {α β ε : Type} {f : α → Except ε β} {xs : List α} {ys : List β} :
    xs.mapM f = .ok ys ↔ List.Forall₂ (fun x y => f x = .ok y) xs ys := by
  induction xs generalizing ys with
  | nil =>
      rw [List.mapM_nil, List.forall₂_nil_left_iff]
      exact ⟨fun h => (Except.ok.inj h).symm, fun h => congrArg _ h.symm⟩
  | cons x xs ih =>
      rw [List.mapM_cons]
      cases hx : f x with
      | error e =>
          show Except.error e = .ok ys ↔ _
          refine iff_of_false (by simp) fun h => ?_
          obtain ⟨y, ys, hy, -, -⟩ := List.forall₂_cons_left_iff.1 h
          exact absurd (hx.symm.trans hy) (by simp)
      | ok y =>
          cases hxs : xs.mapM f with
          | error e =>
              show Except.error e = .ok ys ↔ _
              refine iff_of_false (by simp) fun h => ?_
              obtain ⟨y, ys, -, hys, -⟩ := List.forall₂_cons_left_iff.1 h
              exact absurd (hxs.symm.trans (ih.2 hys)) (by simp)
          | ok rest =>
              show Except.ok (y :: rest) = .ok ys ↔ _
              rw [Except.ok.injEq]
              constructor
              · intro h
                rw [← h]
                exact .cons hx (ih.1 hxs)
              · intro h
                obtain ⟨y', ys', hy, hys, rfl⟩ := List.forall₂_cons_left_iff.1 h
                rw [Except.ok.inj (hx.symm.trans hy), Except.ok.inj (hxs.symm.trans (ih.2 hys))]

theorem parseSettings_eq_ok {document : Json} {settings : Settings} :
    parseSettings document = .ok settings ↔ ∃ version : UInt64,
      version.toUInt32 = kSettingsSchemaVersion ∧ Lists document version settings.bindings ∧
        settings.schemaVersion = kSettingsSchemaVersion := by
  constructor
  · intro h
    unfold parseSettings at h
    split at h
    · rename_i members
      split at h
      · exact absurd h (by simp)
      · rename_i hkeys
        split at h
        · rename_i version hversion
          split at h
          · exact absurd h (by simp)
          · rename_i hschema
            split at h
            · rename_i values hvalues
              split at h
              · exact absurd h (by simp)
              · rename_i bindings hbindings
                split at h
                · exact absurd h (by simp)
                · rename_i hvalid
                  obtain rfl := Except.ok.inj h
                  refine ⟨version, not_not.1 hschema, ⟨members, values, rfl,
                    hasOnlyKeys_pair.1 (eq_true_of_ne_false hkeys), hversion, hvalues, ?_,
                    validate_eq_ok.1 hvalid⟩, rfl⟩
                  exact (mapM_eq_ok.1 hbindings).imp fun _ _ => parseBinding_eq_ok.1
            · exact absurd h (by simp)
        · exact absurd h (by simp)
    · exact absurd h (by simp)
  · rintro ⟨version, hversion, ⟨members, values, rfl, hkeys, hschema, hvalues, hentries, hcomplete⟩, heq⟩
    have hmap : values.mapM parseBinding = .ok settings.bindings :=
      mapM_eq_ok.2 (hentries.imp fun _ _ => parseBinding_eq_ok.2)
    rw [parseSettings, if_neg (by simp [hasOnlyKeys_pair.2 hkeys])]
    simp only [hschema, hvalues, hmap, validate_eq_ok.2 hcomplete, if_neg (not_not_intro hversion)]
    rw [← heq]

def Settings.text (json : JsonLibrary) (settings : Settings) : List Char :=
  json.dump settings.document ++ ['\n']

theorem serializeSettings_eq_ok {json : JsonLibrary} {settings : Settings} {serialized : List Char}
    (h : serializeSettings json settings = .ok serialized) :
    settings.schemaVersion = kSettingsSchemaVersion ∧ Complete settings.bindings ∧
      serialized = settings.text json := by
  unfold serializeSettings at h
  split at h
  · exact absurd h (by simp)
  · rename_i hversion
    split at h
    · exact absurd h (by simp)
    · rename_i hvalid
      exact ⟨not_not.1 hversion, validate_eq_ok.1 hvalid, (Except.ok.inj h).symm⟩

theorem lists_document {settings : Settings} (h : Complete settings.bindings) :
    Lists settings.document settings.schemaVersion.toUInt64 settings.bindings := by
  refine ⟨_, _, rfl, by simp, rfl, rfl, ?_, h⟩
  rw [List.forall₂_map_left_iff, List.forall₂_same]
  exact fun binding _ => ⟨_, rfl, by simp, rfl, rfl⟩

end PvpDuel.Client
