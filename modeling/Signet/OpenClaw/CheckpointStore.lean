import Mathlib.Logic.Function.Basic
import Signet.Schemas.Errors
import Signet.Schemas.Seal

/-!
# The checkpoints of the OpenClaw bridge

One file of a directory for each credential, named after its id.  How the file system keeps
names apart, and which of them it refuses, is a parameter; it stores what is written.

* `parseCheckpoint` — the schema of a checkpoint.
* `readCheckpointFile`, `loadForCredential`, `save` — the store.
* `loadForCredential_iff` — when the store is a map from credentials to checkpoints.
-/

namespace Signet
namespace OpenClaw

open Kit Schemas

/-- Persisted bridge checkpoint for replay-safe reconnect and restart. -/
structure OpenClawBridgeCheckpoint where
  credentialId : String
  lastSeq : Int
  updatedAt : String
deriving DecidableEq, Repr

/-! ## The schema -/

/-- The schema library's name for the type of a value. -/
def parsedType : Json → String
  | .null => "null"
  | .bool _ => "boolean"
  | .number _ => "number"
  | .string _ => "string"
  | .array _ => "array"
  | .object _ => "object"

def typeMessage (expected : String) : Option Json → String
  | none => "Required"
  | some value => "Expected " ++ expected ++ ", received " ++ parsedType value

/-- A member of an object, checked once it has the type that is expected. -/
def checkMember {α : Type*} (members : List (String × Json)) (key expected : String)
    (read : Json → Option α) (checks : α → List String) : Except (List Issue) α :=
  match (members.lookup key).bind read with
  | none => .error [⟨[key], typeMessage expected (members.lookup key)⟩]
  | some value =>
    if (checks value).isEmpty then .ok value
    else .error ((checks value).map fun message => ⟨[key], message⟩)

def issuesOf {α : Type*} : Except (List Issue) α → List Issue
  | .error issues => issues
  | .ok _ => []

def readText : Json → Option String
  | .string text => some text
  | _ => none

def readNumber : Json → Option Int
  | .number value => some value
  | _ => none

/-- The keys a strict object is refused for, in one issue. -/
def unrecognizedIssues (members : List (String × Json)) (known : List String) : List Issue :=
  match (members.map Prod.fst).filter (fun key => key ∉ known) with
  | [] => []
  | keys => [⟨[], "Unrecognized key(s) in object: "
      ++ ", ".intercalate (keys.map fun key => "'" ++ key ++ "'")⟩]

/-- `OpenClawBridgeCheckpoint.safeParse` -/
def parseCheckpoint (zod : ZodEnv) : Json → Except (List Issue) OpenClawBridgeCheckpoint
  | .object members =>
    let credentialId := checkMember members "credentialId" "string" readText fun text =>
      if text = "" then ["String must contain at least 1 character(s)"] else []
    let lastSeq := checkMember members "lastSeq" "number" readNumber fun value =>
      if value < 0 then ["Number must be greater than or equal to 0"] else []
    let updatedAt := checkMember members "updatedAt" "string" readText fun text =>
      if zod.isDatetime text then [] else ["Invalid datetime"]
    let unrecognized := unrecognizedIssues members ["credentialId", "lastSeq", "updatedAt"]
    match credentialId, lastSeq, updatedAt, unrecognized with
    | .ok credentialId, .ok lastSeq, .ok updatedAt, [] => .ok ⟨credentialId, lastSeq, updatedAt⟩
    | _, _, _, _ => .error (issuesOf credentialId ++ issuesOf lastSeq ++ issuesOf updatedAt
        ++ unrecognized)
  | value => .error [⟨[], typeMessage "object" (some value)⟩]

def OpenClawBridgeCheckpoint.toJson (checkpoint : OpenClawBridgeCheckpoint) : Json :=
  .object [("credentialId", .string checkpoint.credentialId),
    ("lastSeq", .number checkpoint.lastSeq), ("updatedAt", .string checkpoint.updatedAt)]

theorem toJson_of_parseCheckpoint {zod : ZodEnv} {checkpoint parsed : OpenClawBridgeCheckpoint}
    (h : parseCheckpoint zod checkpoint.toJson = .ok parsed) : parsed = checkpoint := by
  simp only [OpenClawBridgeCheckpoint.toJson, parseCheckpoint] at h
  split at h
  · next hId hSeq hAt _ =>
    have hValue : ∀ {α : Type} {members key expected} {read : Json → Option α} {checks value},
        checkMember members key expected read checks = .ok value →
          (members.lookup key).bind read = some value := by
      intro α members key expected read checks value hOk
      unfold checkMember at hOk
      split at hOk
      · cases hOk
      · next hRead =>
        split at hOk
        · rw [hRead, Except.ok.inj hOk]
        · cases hOk
    cases hValue hId
    cases hValue hSeq
    cases hValue hAt
    exact (Except.ok.inj h).symm
  · cases h

/-! ## The store -/

/-- Whether a character stays in a file name. -/
def isFilenameChar (c : Char) : Bool :=
  ('a' ≤ c && c ≤ 'z') || ('A' ≤ c && c ≤ 'Z') || ('0' ≤ c && c ≤ '9') || c == '_' || c == '-'

/-- `checkpointFilename`; a character of two code units is replaced twice. -/
def checkpointFilename (credentialId : String) : String :=
  String.ofList (credentialId.toList.flatMap fun c =>
    if isFilenameChar c then [c] else if c.val < 0x10000 then ['_'] else ['_', '_']) ++ ".json"

/-- What a file holds: JSON, or what its text is refused with. -/
abbrev FileContent := Except String Json

/-- A checkpoint store: its directory, its schemas and its file system. -/
structure CheckpointStore (κ : Type*) where
  checkpointsDir : String
  zod : ZodEnv
  /-- The path of a file of the directory. -/
  join : String → String → String
  /-- The directory entry a file name stands for, or what a call with the name throws. -/
  entry : String → Except String κ

/-- The files of the directory. -/
abbrev Files (κ : Type*) := κ → Option FileContent

namespace CheckpointStore

variable {κ : Type*}

def pathForCredential (store : CheckpointStore κ) (credentialId : String) : String :=
  store.join store.checkpointsDir (checkpointFilename credentialId)

/-- `readCheckpointFile`, of the file with a name. -/
def readCheckpointFile (store : CheckpointStore κ) (files : Files κ) (filename : String) :
    Except SignetError (Option OpenClawBridgeCheckpoint) :=
  let path := store.join store.checkpointsDir filename
  let failed (message : String) := InternalError.create "Failed to read OpenClaw checkpoint"
    (some [("path", .text path), ("error", .text message)])
  match store.entry filename with
  | .error message => .error (failed message)
  | .ok entry =>
    match files entry with
    | none => .ok none
    | some (.error message) => .error (failed message)
    | some (.ok json) =>
      match parseCheckpoint store.zod json with
      | .ok checkpoint => .ok (some checkpoint)
      | .error issues => .error (InternalError.create "Invalid OpenClaw checkpoint file"
          (some [("path", .text path),
            ("issues", .json (.array (issues.map fun issue => .string issue.message)))]))

def loadForCredential (store : CheckpointStore κ) (files : Files κ) (credentialId : String) :
    Except SignetError (Option OpenClawBridgeCheckpoint) :=
  store.readCheckpointFile files (checkpointFilename credentialId)

variable [DecidableEq κ]

/-- The path that is written, and the files afterwards. -/
def save (store : CheckpointStore κ) (files : Files κ) (checkpoint : OpenClawBridgeCheckpoint) :
    Except SignetError String × Files κ :=
  let failed (message : String) := InternalError.create "Failed to persist OpenClaw checkpoint"
    (some [("checkpointsDir", .text store.checkpointsDir),
      ("credentialId", .text checkpoint.credentialId), ("error", .text message)])
  match parseCheckpoint store.zod checkpoint.toJson with
  | .error issues => (.error (failed (store.zod.errorMessage issues)), files)
  | .ok parsed =>
    match store.entry (checkpointFilename checkpoint.credentialId) with
    | .error message => (.error (failed message), files)
    | .ok entry =>
      (.ok (store.pathForCredential checkpoint.credentialId),
        Function.update files entry (some (.ok parsed.toJson)))

/-- The files after saves that all succeed. -/
def saveAll (store : CheckpointStore κ) (files : Files κ) :
    List OpenClawBridgeCheckpoint → Option (Files κ)
  | [] => some files
  | checkpoint :: rest =>
    match store.save files checkpoint with
    | (.ok _, files) => store.saveAll files rest
    | (.error _, _) => none

/-! ## The store as a map -/

/-- The entry of a credential's file. -/
def entryOf (store : CheckpointStore κ) (credentialId : String) : Except String κ :=
  store.entry (checkpointFilename credentialId)

/-- The last of some checkpoints that was saved for a credential. -/
def lastSaved (saves : List OpenClawBridgeCheckpoint) (credentialId : String) :
    Option OpenClawBridgeCheckpoint :=
  saves.reverse.find? fun checkpoint => checkpoint.credentialId = credentialId

/-- The last of some checkpoints that was saved to a file. -/
def lastWritten (store : CheckpointStore κ) (saves : List OpenClawBridgeCheckpoint) (entry : κ) :
    Option OpenClawBridgeCheckpoint :=
  saves.reverse.find? fun checkpoint =>
    (store.entryOf checkpoint.credentialId).toOption = some entry

/-- Each file holds the last checkpoint that was saved to it, if any was, as the schema takes it. -/
structure Holds (store : CheckpointStore κ) (files : Files κ)
    (saves : List OpenClawBridgeCheckpoint) : Prop where
  written : ∀ entry, files entry =
    (store.lastWritten saves entry).map fun checkpoint => .ok checkpoint.toJson
  valid : ∀ checkpoint ∈ saves, parseCheckpoint store.zod checkpoint.toJson = .ok checkpoint

variable {store : CheckpointStore κ} {files files' : Files κ} {path credentialId : String}
  {checkpoint : OpenClawBridgeCheckpoint} {saves done : List OpenClawBridgeCheckpoint} {entry : κ}

/-- What a save that succeeds does. -/
theorem save_ok (h : store.save files checkpoint = (.ok path, files')) :
    parseCheckpoint store.zod checkpoint.toJson = .ok checkpoint ∧
      ∃ entry, store.entryOf checkpoint.credentialId = .ok entry ∧
        files' = Function.update files entry (some (.ok checkpoint.toJson)) := by
  unfold save at h
  split at h
  · cases h
  · next parsed hParsed =>
    split at h
    · cases h
    · next entry hEntry =>
      have hSame := toJson_of_parseCheckpoint hParsed
      subst hSame
      exact ⟨hParsed, entry, hEntry, (Prod.mk.inj h).2.symm⟩

theorem lastWritten_concat (hEntry : store.entryOf checkpoint.credentialId = .ok entry)
    (entry' : κ) :
    store.lastWritten (saves ++ [checkpoint]) entry' =
      if entry' = entry then some checkpoint else store.lastWritten saves entry' := by
  rw [lastWritten, List.reverse_concat, List.find?_cons, hEntry]
  by_cases hSame : entry' = entry
  · simp [hSame, Except.toOption]
  · simp [hSame, Except.toOption, Ne.symm hSame, lastWritten]

theorem Holds.save (hHolds : store.Holds files saves)
    (h : store.save files checkpoint = (.ok path, files')) :
    store.Holds files' (saves ++ [checkpoint]) := by
  obtain ⟨hValid, entry, hEntry, rfl⟩ := save_ok h
  constructor
  · intro entry'
    rw [lastWritten_concat hEntry]
    by_cases hSame : entry' = entry
    · subst hSame
      rw [Function.update_self, if_pos rfl]
      rfl
    · rw [Function.update_of_ne hSame, if_neg hSame]
      exact hHolds.written entry'
  · intro other hOther
    rcases List.mem_append.mp hOther with hBefore | hLast
    · exact hHolds.valid other hBefore
    · rw [List.mem_singleton.mp hLast]
      exact hValid

theorem Holds.saveAll (hHolds : store.Holds files done)
    (h : store.saveAll files saves = some files') : store.Holds files' (done ++ saves) := by
  induction saves generalizing files done with
  | nil =>
    cases h
    rwa [List.append_nil]
  | cons checkpoint rest ih =>
    rw [CheckpointStore.saveAll] at h
    split at h
    · next path files hSave =>
      have hRest := ih (hHolds.save hSave) h
      rwa [List.append_assoc] at hRest
    · cases h

/-- What is loaded from a file: the last checkpoint that was saved to it. -/
theorem Holds.load (hHolds : store.Holds files saves)
    (hEntry : store.entryOf credentialId = .ok entry) :
    store.loadForCredential files credentialId = .ok (store.lastWritten saves entry) := by
  have hFile := hHolds.written entry
  rw [entryOf] at hEntry
  unfold loadForCredential readCheckpointFile
  rw [hEntry]
  cases hLast : store.lastWritten saves entry with
  | none => simp only [hFile, hLast, Option.map_none]
  | some last =>
    have hIn : last ∈ saves := List.mem_reverse.mp (List.mem_of_find?_eq_some hLast)
    simp only [hFile, hLast, Option.map_some, hHolds.valid last hIn]

omit [DecidableEq κ] in
theorem load_refused {message : String} (hEntry : store.entryOf credentialId = .error message) :
    ∃ error, ∀ files, store.loadForCredential files credentialId = .error error := by
  rw [entryOf] at hEntry
  unfold loadForCredential readCheckpointFile
  simp only [hEntry]
  exact ⟨_, fun _ => rfl⟩

/-- The first of the elements with a weak property is the first with a stronger one that it has. -/
theorem find?_of_imp {α : Type*} {weak strong : α → Bool} (hImp : ∀ a, strong a → weak a)
    {l : List α} (hFound : ∀ a ∈ l.find? weak, strong a) : l.find? strong = l.find? weak := by
  induction l with
  | nil => rfl
  | cons a l ih =>
    by_cases hWeak : weak a = true
    · rw [List.find?_cons_of_pos hWeak] at hFound ⊢
      exact List.find?_cons_of_pos (hFound a rfl)
    · rw [List.find?_cons_of_neg hWeak] at hFound ⊢
      rw [List.find?_cons_of_neg (mt (hImp a) hWeak), ih hFound]

/-- **When the store is a map.**  After saves, the last checkpoint of a credential is what is
loaded for it if and only if its file has a name the file system takes, and the last save to
that file, if any, was for the credential.  A save for another credential leaves what is loaded
if and only if it goes to another file, or to one that has that very checkpoint. -/
theorem loadForCredential_iff (hSaves : store.saveAll (fun _ => none) saves = some files)
    (credentialId : String) :
    (store.loadForCredential files credentialId = .ok (lastSaved saves credentialId) ↔
      ∃ entry, store.entryOf credentialId = .ok entry ∧
        ∀ last ∈ store.lastWritten saves entry, last.credentialId = credentialId) ∧
    ∀ checkpoint path files', store.save files checkpoint = (.ok path, files') →
      checkpoint.credentialId ≠ credentialId →
      (store.loadForCredential files' credentialId = store.loadForCredential files credentialId ↔
        ∀ entry, store.entryOf credentialId = .ok entry →
          store.entryOf checkpoint.credentialId = .ok entry →
          store.lastWritten saves entry = some checkpoint) := by
  have hEmpty : store.Holds (fun _ => none) [] := ⟨fun _ => rfl, nofun⟩
  have hHolds : store.Holds files saves := hEmpty.saveAll hSaves
  cases hEntry : store.entryOf credentialId with
  | error message =>
    obtain ⟨error, hLoad⟩ := load_refused hEntry
    simp [hLoad]
  | ok entry =>
    constructor
    · rw [hHolds.load hEntry, Except.ok.injEq]
      constructor
      · intro hLast
        refine ⟨entry, rfl, fun last hIn => ?_⟩
        rw [hLast] at hIn
        have hId := List.find?_some hIn
        exact of_decide_eq_true hId
      · rintro ⟨_, hSame, hOwn⟩
        cases hSame
        refine (find?_of_imp ?_ ?_).symm
        · intro other hOther
          simp only [decide_eq_true_eq] at hOther ⊢
          rw [hOther, hEntry]
          rfl
        · exact fun last hIn => decide_eq_true (hOwn last hIn)
    · intro checkpoint path files' hSave _
      obtain ⟨-, written, hWritten, -⟩ := save_ok hSave
      rw [(hHolds.save hSave).load hEntry, hHolds.load hEntry, lastWritten_concat hWritten,
        Except.ok.injEq, hWritten]
      simp only [Except.ok.injEq]
      split
      · next hSame =>
        subst hSame
        constructor
        · rintro hLast _ rfl -
          exact hLast.symm
        · intro hLast
          exact (hLast _ rfl rfl).symm
      · next hOther =>
        refine iff_of_true rfl ?_
        rintro _ rfl rfl
        exact absurd rfl hOther

/-- A directory that keeps names apart as they are, up to a length. -/
def checkpointsOn : CheckpointStore String where
  checkpointsDir := "/home/agent/checkpoints"
  zod := ⟨fun text => text == "2026-04-18T00:00:00.000Z", fun _ => "invalid"⟩
  join dir name := dir ++ "/" ++ name
  entry name := if name.utf8ByteSize ≤ 255 then .ok name else .error "ENAMETOOLONG"

def checkpointAt (credentialId : String) (lastSeq : Int) : OpenClawBridgeCheckpoint :=
  ⟨credentialId, lastSeq, "2026-04-18T00:00:00.000Z"⟩

/-- The files after some saves to an empty directory. -/
def filesAfter (saves : List OpenClawBridgeCheckpoint) : Files String :=
  (checkpointsOn.saveAll (fun _ => none) saves).getD fun _ => none

set_option maxRecDepth 20000 in
theorem loadForCredential_iff_twice :
    checkpointsOn.loadForCredential (filesAfter [checkpointAt "cred_1" 4, checkpointAt "cred_1" 7])
      "cred_1" = .ok (lastSaved [checkpointAt "cred_1" 4, checkpointAt "cred_1" 7] "cred_1") := by
  refine (loadForCredential_iff ?_ "cred_1").1.mpr ⟨"cred_1.json", by decide, by decide⟩
  rfl

set_option maxRecDepth 20000 in
/-- Two credentials with one file: what is loaded for the one was saved for the other. -/
theorem loads_other_credential :
    checkpointsOn.loadForCredential (filesAfter [checkpointAt "agent.a" 4]) "agent_a" =
        .ok (some (checkpointAt "agent.a" 4)) ∧
      lastSaved [checkpointAt "agent.a" 4] "agent_a" = none := by
  decide

end CheckpointStore
end OpenClaw
end Signet
