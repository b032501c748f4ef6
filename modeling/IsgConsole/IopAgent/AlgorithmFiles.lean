/-
# IopAgent.AlgorithmFiles — the configuration files of the channels, and their checksums

Every channel has an `AlgoConfig.json`.  `loadAlgorithmConfig` reads its checksum once, at startup,
into `m_jsonChecksum`; an operation `SAVE` writes the file anew and answers with the checksum of
what it wrote; `registerToPolicyStore` sends `m_jsonChecksum`.  Nobody else writes the files.

* `acknowledged` — **the answer to a `SAVE` has the checksum of the file;**
* `current_iff` — **when a registration has it too;**
* `saved_unreported` — a registration that still has the old one.
-/
import IsgConsole.IopAgent.IasSet
import IsgConsole.IopAgent.TcpClient

namespace IsgConsole.IopAgent

open IsgConsole.Theory IsgConsole.BaseLib IsgConsole.IasBase IsgConsole.IasAgent
open IsgConsole.Theory.Json
open IsgConsole.IasAgent.ChannelInfer (checksum)

set_option autoImplicit false

namespace AlgorithmFiles

/-! ## Files and channels -/

/-- The `AlgoConfig.json` of a channel, in the directory `/%1` or `/DT_%1` of the brand. -/
inductive AlgoFile where
  | AI (channelId : Int)
  | DT (channelId : Int)
  deriving DecidableEq

/-- What the files hold; `none` where there is no file. -/
abbrev Disk := AlgoFile → Option Bytes

/-- `getAlgorithmFileChecksum`, of `ChannelInfer` and of `BatchInfer`. -/
def getAlgorithmFileChecksum (disk : Disk) (file : AlgoFile) : Int :=
  match disk file with
  | some byteArray => checksum byteArray
  | none => 0

variable {qt : QtJson} {alg : DtAlgorithms qt} {ai : AiAlgorithms}

/-- The console: the channels under their ids, `m_jsonChecksum` of each, and the files. -/
structure Console (alg : DtAlgorithms qt) (ai : AiAlgorithms) where
  project : IasSet.Project alg ai
  m_jsonChecksum : AlgoFile → Int
  disk : Disk

/-- The console after `loadAlgorithmConfig` of every channel. -/
def loaded (project : IasSet.Project alg ai) (disk : Disk) : Console alg ai :=
  { project := project, m_jsonChecksum := getAlgorithmFileChecksum disk, disk := disk }

/-- The file that a `SAVE` is for, if there is such a channel. -/
def fileOf (project : IasSet.Project alg ai) (r : IasSet.Request) : Option AlgoFile :=
  if r.iasType = utf8 "AI" then
    if IasJsonParser.getComponentId r.configuration ∈ project.AICtrls then
      some (.AI (IasJsonParser.getComponentId r.configuration))
    else none
  else if r.iasType = utf8 "DT" then
    if r.channelId ∈ project.channelInfers then some (.DT r.channelId) else none
  else none

/-- The file a `SAVE` writes, and the text. -/
def written (project : IasSet.Project alg ai) (r : IasSet.Request) (fileOpens : Bool) :
    Option (AlgoFile × Bytes) :=
  if fileOpens then
    (fileOf project r).map fun file => (file, IasJsonParser.toQString qt r.configuration)
  else none

def write (disk : Disk) : Option (AlgoFile × Bytes) → Disk
  | some (file, byteArray) => Function.update disk file (some byteArray)
  | none => disk

/-- The channels as a registration describes them, with a checksum for each. -/
def registration (project : IasSet.Project alg ai) (applicationDirPath brandId : Bytes)
    (checkSum : AlgoFile → Int) : TcpClient.Registration :=
  { applicationDirPath := applicationDirPath
    AICtrls := project.AICtrls.keys.map fun id => { channelId := id, jsonChecksum := checkSum (.AI id) }
    channelInfers := project.channelInfers.keys.map fun id =>
      { channelId := id, jsonChecksum := checkSum (.DT id) }
    brandId := brandId }

/-! ## Events -/

inductive Event where
  /-- A `PsCmd_IasSet` with the operation `SAVE`; whether the file can be opened. -/
  | save (r : IasSet.Request) (fileOpens : Bool)
  /-- A connection comes up, or a registration is repeated. -/
  | register (now : UInt64) (applicationDirPath brandId : Bytes)

inductive Output where
  | respondToPolicyStore (ackBody : JsonObject)
  | sendMessage (message : Message)

def step (s : Console alg ai) : Event → Console alg ai × List Output
  | .save r fileOpens =>
      let r := { r with operationType := AI_OPERATION_SAVE }
      match IasSet.onRequest s.project r fileOpens with
      | none => (s, [])
      | some (project, ackBody) =>
          ({ s with project := project, disk := write s.disk (written s.project r fileOpens) },
            [.respondToPolicyStore ackBody])
  | .register now applicationDirPath brandId =>
      (s, [.sendMessage (TcpClient.registerToPolicyStore qt now
        (registration s.project applicationDirPath brandId s.m_jsonChecksum))])

/-! ## A `SAVE` -/

/-- No channel comes or goes. -/
structure SameChannels (before after : IasSet.Project alg ai) : Prop where
  AICtrls : after.AICtrls.keys = before.AICtrls.keys
  channelInfers : after.channelInfers.keys = before.channelInfers.keys

theorem keys_modify {K V : Type} [DecidableEq K] (key : K) (f : V → V) (table : Hash K V) :
    (table.modify key f).keys = table.keys := by
  show (table.entries.map _).map Sigma.fst = table.entries.map Sigma.fst
  rw [List.map_map]
  rfl

/-- The answer to a `SAVE`. -/
def answer (qt : QtJson) (file : Option AlgoFile) (channelId : Int) (configuration : JsonObject)
    (fileOpens : Bool) : JsonObject :=
  match file with
  | none => IasSet.ackBody true []
  | some _ =>
      if fileOpens then
        IasSet.ackBody true ((JsonObject.insert (utf8 "channel_id") (int channelId) []).insert
          (utf8 "json_checksum") (int (checksum (IasJsonParser.toQString qt configuration))))
      else IasSet.ackBody false []

theorem SameChannels.refl (project : IasSet.Project alg ai) : SameChannels project project :=
  ⟨rfl, rfl⟩

/-- A `SAVE` leaves the channel as it is. -/
theorem batchInfer_save (self : BatchOperate ai) (configuration : JsonObject) (fileOpens : Bool) :
    self.onOperateInfer qt AI_OPERATION_SAVE configuration [] fileOpens =
      if fileOpens then
        some (true, (JsonObject.insert (utf8 "channel_id") (int self.m_channelID) []).insert
          (utf8 "json_checksum") (int (checksum (IasJsonParser.toQString qt configuration))), self)
      else some (false, [], self) := by
  cases fileOpens <;> rfl

theorem channelInfer_save (self : ChannelInfer alg) (dtType : Int) (configuration : JsonObject)
    (fileOpens : Bool) :
    self.onOperateInfer DT_OPERATION_SAVE dtType configuration [] fileOpens =
      if fileOpens then
        (true, (JsonObject.insert (utf8 "channel_id") (int self.m_channelID) []).insert
          (utf8 "json_checksum") (int (checksum (IasJsonParser.toQString qt configuration))), self)
      else (false, [], self) := by
  cases fileOpens <;> rfl

theorem onRequest_save (project : IasSet.Project alg ai) (r : IasSet.Request)
    (save : r.operationType = AI_OPERATION_SAVE) (fileOpens : Bool) :
    ∃ project' channelId, SameChannels project project' ∧
      IasSet.onRequest project r fileOpens =
        some (project', answer qt (fileOf project r) channelId r.configuration fileOpens) := by
  have dtSave : r.operationType = DT_OPERATION_SAVE := save
  unfold IasSet.onRequest fileOf
  by_cases isAI : r.iasType = utf8 "AI"
  · simp only [if_pos isAI]
    cases held : project.AICtrls.lookup (IasJsonParser.getComponentId r.configuration) with
    | none =>
        have unknown := AList.lookup_eq_none.mp held
        exact ⟨project, 0, .refl project, by rw [if_neg unknown]; rfl⟩
    | some batchInfer =>
        simp only [if_pos (Hash.mem_of_lookup held), save, batchInfer_save]
        have kept := keys_modify (IasJsonParser.getComponentId r.configuration)
          (fun _ => batchInfer) project.AICtrls
        refine ⟨⟨_, project.channelInfers⟩, batchInfer.m_channelID, ⟨kept, rfl⟩, ?_⟩
        cases fileOpens <;> rfl
  · simp only [if_neg isAI]
    by_cases isDT : r.iasType = utf8 "DT"
    · simp only [if_pos isDT]
      cases held : project.channelInfers.lookup r.channelId with
      | none =>
          have unknown := AList.lookup_eq_none.mp held
          exact ⟨project, 0, .refl project, by rw [if_neg unknown]; rfl⟩
      | some channelInfer =>
          simp only [if_pos (Hash.mem_of_lookup held), dtSave, channelInfer_save]
          have kept := keys_modify r.channelId (fun _ => channelInfer) project.channelInfers
          refine ⟨⟨project.AICtrls, project.channelInfers.modify r.channelId fun _ => channelInfer⟩,
            channelInfer.m_channelID, ⟨rfl, kept⟩, ?_⟩
          cases fileOpens <;> rfl
    · simp only [if_neg isDT]
      exact ⟨project, 0, .refl project, rfl⟩

/-! ## What a registration says -/

/-- The files of the channels there are. -/
def filesOf (project : IasSet.Project alg ai) : List AlgoFile :=
  project.AICtrls.keys.map .AI ++ project.channelInfers.keys.map .DT

/-- The values of an `int`. -/
def IsInt (n : Int) : Prop := -2 ^ 31 ≤ n ∧ n < 2 ^ 31

theorem getAlgorithmFileChecksum_int (disk : Disk) (file : AlgoFile) :
    IsInt (getAlgorithmFileChecksum disk file) := by
  unfold getAlgorithmFileChecksum
  cases disk file with
  | none => exact ⟨by decide, by decide⟩
  | some byteArray => exact ⟨Int.le_bmod (by decide), Int.bmod_lt (by decide)⟩

/-- The checksum of an entry that is read back. -/
theorem crcJson_inj {algorithmType id a b : Int} (first : IsInt a) (second : IsInt b)
    (same : held qt.round (TcpClient.crcJson algorithmType ⟨id, a⟩) =
      held qt.round (TcpClient.crcJson algorithmType ⟨id, b⟩)) : a = b := by
  have exact {n : Int} (int' : IsInt n) : held qt.round (int n) = int n := by
    obtain ⟨above, below⟩ := int'
    exact held_of_isHeld _ (qt.holds_int (by omega) (by omega))
  have members := congrArg (fun json => json.toObject.value (utf8 "check_sum")) same
  simp only [TcpClient.crcJson, value_held_object, JsonObject.value_insert_self, Option.map_some,
    Option.some.injEq, exact first, exact second] at members
  exact congrArg Decimal.mantissa (Json.number.inj members)

/-- A registration can be read back. -/
theorem registerBody_inj {now : UInt64} {r r' : TcpClient.Registration}
    (same : TcpClient.registerToPolicyStore qt now r = TcpClient.registerToPolicyStore qt now r') :
    (r.AICtrls.map (TcpClient.crcJson TcpClient.IAS_AI) ++
        r.channelInfers.map (TcpClient.crcJson TcpClient.IAS_DT)).map (held qt.round) =
      (r'.AICtrls.map (TcpClient.crcJson TcpClient.IAS_AI) ++
        r'.channelInfers.map (TcpClient.crcJson TcpClient.IAS_DT)).map (held qt.round) := by
  have text : qt.toJson .Compact (.object (TcpClient.registerBody r)) =
      qt.toJson .Compact (.object (TcpClient.registerBody r')) := congrArg Prod.snd same
  have read := congrArg qt.fromJson text
  rw [qt.fromJson_toJson _ _ rfl, qt.fromJson_toJson _ _ rfl] at read
  have info := congrArg (fun v => v.toObject.value (utf8 "algorithmInfo")) (Option.some.inj read)
  simp only [value_held_object, TcpClient.registerBody, JsonObject.value_insert_self,
    Option.map_some, Option.some.injEq, held_array] at info
  exact Json.array.inj info

/-- Two registrations say the same exactly when they have the same checksum for each channel. -/
theorem registration_eq_iff (project : IasSet.Project alg ai) (now : UInt64)
    (applicationDirPath brandId : Bytes) {f g : AlgoFile → Int} (first : ∀ file, IsInt (f file))
    (second : ∀ file, IsInt (g file)) :
    TcpClient.registerToPolicyStore qt now (registration project applicationDirPath brandId f) =
        TcpClient.registerToPolicyStore qt now (registration project applicationDirPath brandId g) ↔
      ∀ file ∈ filesOf project, f file = g file := by
  constructor
  · intro same
    have entries := registerBody_inj same
    simp only [registration, List.map_append, List.map_map] at entries
    obtain ⟨ai, dt⟩ := List.append_inj entries (by simp)
    intro file there
    rcases List.mem_append.mp there with there | there
    · obtain ⟨id, known, rfl⟩ := List.mem_map.mp there
      exact crcJson_inj (first _) (second _) (List.map_inj_left.mp ai id known)
    · obtain ⟨id, known, rfl⟩ := List.mem_map.mp there
      exact crcJson_inj (first _) (second _) (List.map_inj_left.mp dt id known)
  · intro same
    have ai : ∀ id ∈ project.AICtrls.keys, f (.AI id) = g (.AI id) := fun id known =>
      same _ (List.mem_append_left _ (List.mem_map_of_mem known))
    have dt : ∀ id ∈ project.channelInfers.keys, f (.DT id) = g (.DT id) := fun id known =>
      same _ (List.mem_append_right _ (List.mem_map_of_mem known))
    have alike : registration project applicationDirPath brandId f =
        registration project applicationDirPath brandId g := by
      unfold registration
      congr 1
      · exact List.map_congr_left fun id known => by rw [ai id known]
      · exact List.map_congr_left fun id known => by rw [dt id known]
    rw [alike]

/-! ## Runs -/

abbrev Turn (alg : DtAlgorithms qt) (ai : AiAlgorithms) :=
  Machine.Transition (Console alg ai) Event Output

/-- What a step writes. -/
def saving (t : Turn alg ai) : Option (AlgoFile × Bytes) :=
  match t.event with
  | .save r fileOpens => written t.before.project r fileOpens
  | .register _ _ _ => none

/-- What was written last into each file since startup. -/
def lastSaved (h : List (Turn alg ai)) : Disk :=
  h.foldl (fun disk t => write disk (saving t)) fun _ => none

/-- The console after a run, by what was saved in it. -/
structure Stored (project : IasSet.Project alg ai) (disk : Disk) (h : List (Turn alg ai))
    (s : Console alg ai) : Prop where
  channels : SameChannels project s.project
  cached : s.m_jsonChecksum = getAlgorithmFileChecksum disk
  files : ∀ file, s.disk file = (lastSaved h file).or (disk file)

section Runs

variable (project : IasSet.Project alg ai) (disk : Disk)

theorem lastSaved_snoc (h : List (Turn alg ai)) (t : Turn alg ai) :
    lastSaved (h ++ [t]) = write (lastSaved h) (saving t) :=
  List.foldl_concat ..

/-- A step writes what it saves, and keeps what was read at startup. -/
theorem step_stores (s : Console alg ai) (e : Event) :
    SameChannels s.project (step s e).1.project ∧
      (step s e).1.m_jsonChecksum = s.m_jsonChecksum ∧
      (step s e).1.disk = write s.disk (saving (Machine.transition step s e)) := by
  cases e with
  | save r fileOpens =>
      obtain ⟨project', channelId, same, answered⟩ :=
        onRequest_save s.project { r with operationType := AI_OPERATION_SAVE } rfl fileOpens
      simp only [step, answered]
      exact ⟨same, trivial, rfl⟩
  | register now applicationDirPath brandId => exact ⟨.refl _, rfl, rfl⟩

theorem write_or (above below : Disk) (entry : Option (AlgoFile × Bytes)) (file : AlgoFile) :
    write (fun file => (above file).or (below file)) entry file =
      (write above entry file).or (below file) := by
  cases entry with
  | none => rfl
  | some entry =>
      simp only [write, Function.update_apply]
      split <;> rfl

theorem stored (events : List Event) :
    Stored project disk (Machine.trace step (loaded project disk) events)
      (Machine.final step (loaded project disk) events) := by
  refine Machine.run_induction step (P := Stored project disk)
    ⟨.refl project, rfl, fun _ => rfl⟩ ?_ events
  intro es e before
  obtain ⟨same, cached, files⟩ := step_stores (Machine.final step (loaded project disk) es) e
  refine ⟨⟨same.AICtrls.trans before.channels.AICtrls,
    same.channelInfers.trans before.channels.channelInfers⟩, cached.trans before.cached, ?_⟩
  intro file
  have old : (Machine.final step (loaded project disk) es).disk =
      fun file => (lastSaved (Machine.trace step (loaded project disk) es) file).or (disk file) :=
    funext before.files
  show (step _ e).1.disk file = _
  rw [files, old, write_or, lastSaved_snoc]

/-- The `json_checksum` of an answer. -/
def jsonChecksumOf (ackBody : JsonObject) : Json :=
  (ackBody.get (utf8 "result")).toObject.get (utf8 "json_checksum")

/-- A `SAVE` that succeeds answers with the checksum of the file it leaves behind. -/
def Acknowledged (first : List Event) (e : Event) : Prop :=
  ∀ file byteArray,
    saving (Machine.transition step (Machine.final step (loaded project disk) first) e) =
      some (file, byteArray) →
    ∃ ackBody, (step (Machine.final step (loaded project disk) first) e).2 =
        [.respondToPolicyStore ackBody] ∧
      IasSet.replyCode ackBody = CTRL_SUCCESS ∧
      jsonChecksumOf ackBody = int (getAlgorithmFileChecksum
        (Machine.final step (loaded project disk) (first ++ [e])).disk file)

/-- A registration has the checksums of the files as they are. -/
def Current (first : List Event) (e : Event) : Prop :=
  match e with
  | .register now applicationDirPath brandId =>
      (step (Machine.final step (loaded project disk) first) e).2 =
        [.sendMessage (TcpClient.registerToPolicyStore qt now
          (registration project applicationDirPath brandId (getAlgorithmFileChecksum
            (Machine.final step (loaded project disk) first).disk)))]
  | .save _ _ => True

/-- At a registration, what was saved last for a channel has the checksum of what was loaded. -/
def Unmoved (first : List Event) (e : Event) : Prop :=
  match e with
  | .register _ _ _ => ∀ file ∈ filesOf project, ∀ byteArray,
      lastSaved (Machine.trace step (loaded project disk) first) file = some byteArray →
      checksum byteArray = getAlgorithmFileChecksum disk file
  | .save _ _ => True

theorem written_some {s : Console alg ai} {r : IasSet.Request} {fileOpens : Bool} {file : AlgoFile}
    {byteArray : Bytes} (saves : written s.project r fileOpens = some (file, byteArray)) :
    fileOpens = true ∧ fileOf s.project r = some file ∧
      byteArray = IasJsonParser.toQString qt r.configuration := by
  unfold written at saves
  split at saves
  case isTrue opens =>
    obtain ⟨_, known, same⟩ := Option.map_eq_some_iff.mp saves
    obtain ⟨rfl, rfl⟩ := Prod.mk.inj same
    exact ⟨opens, known, rfl⟩
  case isFalse => cases saves

/-- **The answer to a `SAVE` has the checksum of the file.** -/
theorem acknowledged (first : List Event) (e : Event) : Acknowledged project disk first e := by
  intro file byteArray saves
  rw [Machine.final_snoc]
  generalize Machine.final step (loaded project disk) first = s at saves ⊢
  cases e with
  | register now applicationDirPath brandId => cases saves
  | save r fileOpens =>
      obtain ⟨rfl, known, rfl⟩ := written_some (s := s) saves
      obtain ⟨project', channelId, same, answered⟩ :=
        onRequest_save s.project { r with operationType := AI_OPERATION_SAVE } rfl true
      rw [show fileOf s.project { r with operationType := AI_OPERATION_SAVE } = some file from known]
        at answered
      have holds : write s.disk (written s.project { r with operationType := AI_OPERATION_SAVE } true)
          file = some (IasJsonParser.toQString qt r.configuration) := by
        rw [show written s.project { r with operationType := AI_OPERATION_SAVE } true = _ from saves]
        exact Function.update_self ..
      simp only [step, answered, getAlgorithmFileChecksum, holds]
      exact ⟨_, rfl, rfl, rfl⟩

theorem registration_of_stored {h : List (Turn alg ai)} {s : Console alg ai}
    (stored : Stored project disk h s) (applicationDirPath brandId : Bytes)
    (checkSum : AlgoFile → Int) :
    registration s.project applicationDirPath brandId checkSum =
      registration project applicationDirPath brandId checkSum := by
  rw [registration, stored.channels.AICtrls, stored.channels.channelInfers, registration]

theorem current_turn (first : List Event) (e : Event) :
    Current project disk first e ↔ Unmoved project disk first e := by
  cases e with
  | save r fileOpens => rfl
  | register now applicationDirPath brandId =>
      have stored := stored project disk first
      simp only [Current, Unmoved, step, registration_of_stored project disk stored, stored.cached,
        List.cons.injEq, Output.sendMessage.injEq, and_true]
      rw [registration_eq_iff project now _ _ (getAlgorithmFileChecksum_int disk)
        (getAlgorithmFileChecksum_int _)]
      refine forall₂_congr fun file known => ?_
      show getAlgorithmFileChecksum disk file = getAlgorithmFileChecksum _ file ↔ _
      cases saved : lastSaved (Machine.trace step (loaded project disk) first) file with
      | none => simp [getAlgorithmFileChecksum, stored.files, saved]
      | some byteArray =>
          have now : getAlgorithmFileChecksum
              (Machine.final step (loaded project disk) first).disk file = checksum byteArray := by
            rw [getAlgorithmFileChecksum, stored.files, saved]
            rfl
          rw [now]
          constructor
          · intro same other saved
            obtain rfl := Option.some.inj saved
            exact same.symm
          · intro kept
            exact (kept byteArray rfl).symm

/-- **When every registration has the checksums of the files.**  Every `SAVE` that succeeds answers
with that of the file it wrote. -/
theorem current_iff (project : IasSet.Project alg ai) (disk : Disk) (events : List Event) :
    (Machine.Always (Acknowledged project disk) events ∧
        Machine.Always (Current project disk) events) ↔
      Machine.Always (Unmoved project disk) events := by
  have answers : Machine.Always (Acknowledged project disk) events :=
    fun first e _ _ => acknowledged project disk first e
  have same : Current project disk = Unmoved project disk := by
    funext first e
    exact propext (current_turn project disk first e)
  rw [and_iff_right answers, same]

end Runs

/-! ## A registration after a `SAVE` -/

/-- An empty configuration for the DT channel 1. -/
def saveEmpty : Event :=
  .save { iasType := utf8 "DT", channelId := 1, operationType := DT_OPERATION_SAVE, dtType := 0,
          configuration := [] } true

/-- The console has the DT channel 1 and no file.  Its `SAVE` is answered with the checksum 268 of
the text of an empty object, and the registration after it still sends 0. -/
theorem saved_unreported :
    ¬ (Machine.Always (Acknowledged IasSet.console fun _ => none) [saveEmpty, .register 5 [] []] ∧
      Machine.Always (Current IasSet.console fun _ => none) [saveEmpty, .register 5 [] []]) := by
  rintro ⟨-, current⟩
  have unmoved := (current_turn IasSet.console (fun _ => none) [saveEmpty] (.register 5 [] [])).mp
    (current [saveEmpty] _ [] rfl)
  have same : checksum _ = 0 := unmoved (.DT 1) (by decide) _ rfl
  exact absurd same (by decide)

end AlgorithmFiles

end IsgConsole.IopAgent
