/-
# IopAgent.SpotDetect — when a spot check is finished

A start of the spot check sets the counter to the number of channels it names, and every
camera that gets through its list takes one off.  Cameras at work for an earlier start take
one off as well.

* `counted_step` — which step leaves the counter right;
* `exhausted_takenUp` — a channel that is not waiting has taken up all its pictures;
* `complete_iff` — **the runs in which the counter and the answer are exact**;
* `lastOfNamed_of_idle` — among them are those with one check after the other.
-/
import IsgConsole.ImgSrc.SoftCamera

namespace IsgConsole.IopAgent

open IsgConsole.Theory IsgConsole.BaseLib IsgConsole.ImgSrc

set_option autoImplicit false

namespace SpotDetect

/-! ## Histories -/

/-- The start of a spot check that an event is. -/
def starts : Event → Option SpotEnable
  | .spotEnable .RunType_Spot request => if request.isStart then some request else none
  | _ => none

def stops : Event → Bool
  | .spotEnable .RunType_Spot request => !request.isStart
  | _ => false

/-- The last start, and whether a stop came after it. -/
structure Start where
  request : SpotEnable
  stopped : Bool

def remember (last : Option Start) (e : Event) : Option Start :=
  match starts e with
  | some request => some { request, stopped := false }
  | none => last.map fun start => { start with stopped := start.stopped || stops e }

def lastStart (es : List Event) : Option Start := es.foldl remember none

theorem lastStart_snoc (es : List Event) (e : Event) :
    lastStart (es ++ [e]) = remember (lastStart es) e :=
  List.foldl_append

/-- The list a channel has loaded last, and what it has taken up of it since. -/
structure Progress where
  newPath : SpotPath
  files : List Bytes
  taken : List Bytes

def note (channel : Int) (held : Option Progress) : Output → Option Progress
  | .loaded other newPath files =>
      if other = channel then some { newPath, files, taken := [] } else held
  | .takenUp other file =>
      if other = channel then held.map fun h => { h with taken := h.taken ++ [file] } else held
  | .status _ _ => held

/-- A start names distinct channels that have virtual cameras. -/
def Valid (channels : List Int) (e : Event) : Prop :=
  ∀ request, starts e = some request →
    request.channelId.Nodup ∧ ∀ channel ∈ request.channelId, channel ∈ channels

instance (channels : List Int) (e : Event) : Decidable (Valid channels e) :=
  inferInstanceAs (Decidable (∀ request ∈ starts e, _))

/-! ## Waiting channels -/

/-- A camera is not through: a path is posted for it, or it has a list. -/
def waits (camera : SoftCamera) : Bool := !camera.posted.isEmpty || !camera.m_imageList.isEmpty

/-- A camera with one thing to do at a time: its queue is empty, or holds one path while it has no
list. -/
def Orderly (camera : SoftCamera) : Prop :=
  camera.posted = [] ∨ camera.posted.length = 1 ∧ camera.m_imageList = []

theorem waits_eq_false {camera : SoftCamera} :
    waits camera = false ↔ camera.posted = [] ∧ camera.m_imageList = [] := by
  simp [waits]

def waiting (s : SpotCheck) (channel : Int) : Bool :=
  ((s.virtualCameras.lookup channel).map waits).getD false

/-- The counter is the number of named channels that are not through. -/
def Counted (s : SpotCheck) (named : List Int) : Prop :=
  s.s_spotDetectWaitFinishCount = named.countP (waiting s)

def AllSpot (s : SpotCheck) : Prop :=
  ∀ channel camera, s.virtualCameras.lookup channel = some camera → camera.m_isSpotCamera = true

/-- The channel that gets through its list in a step, and the paths still posted for it. -/
def finishing (s : SpotCheck) : Event → Option (Int × List SpotPath)
  | .setImageSrcPathAsync channel files =>
      match s.virtualCameras.lookup channel with
      | some camera =>
          match camera.posted with
          | _ :: rest => if files = [] then some (channel, rest) else none
          | [] => none
      | none => none
  | .onTimeout channel =>
      match s.virtualCameras.lookup channel with
      | some camera => if camera.through then some (channel, camera.posted) else none
      | none => none
  | _ => none

/-! ## Steps -/

section Steps

variable {s : SpotCheck} {channel : Int} {camera camera' : SoftCamera} {e : Event}
  {outs : List Output} {done : Bool}

theorem waiting_of_lookup (held : s.virtualCameras.lookup channel = some camera) :
    waiting s channel = waits camera := by
  simp [waiting, held]

theorem lookup_setEnabled (s : SpotCheck) (value : Bool) (channel : Int) :
    (s.setEnabled value).virtualCameras.lookup channel =
      (s.virtualCameras.lookup channel).map fun camera =>
        { camera with m_bStartStage := (value && !s.m_enabled) || camera.m_bStartStage } := by
  simp only [SpotCheck.setEnabled]
  split
  next on =>
      rw [Hash.lookup_mapValues]
      simp [on]
  next off =>
      have none : (value && !s.m_enabled) = false := by simpa using off
      simp [none]

/-- Posting a path for each channel of a list. -/
theorem lookup_posts (request : SpotEnable) (channels : List Int) (cameras : Hash Int SoftCamera) :
    (channels.foldl (SpotCheck.post request) cameras).lookup channel =
      (cameras.lookup channel).map fun camera =>
        let paths := (channels.filter fun c => c = channel).map request.newPath
        { camera with posted := camera.posted ++ paths } := by
  induction channels generalizing cameras with
  | nil => simp
  | cons c channels ih =>
      rw [List.foldl_cons, ih, SpotCheck.post]
      by_cases here : c = channel
      · subst here
        simp [Function.comp_def]
      · simp [here, Ne.symm here]

/-- What a camera does in a step of its own: what becomes of it, what it shows, and whether it is
through with a list. -/
inductive Move (channel : Int) (camera : SoftCamera) :
    Event → SoftCamera → List Output → Bool → Prop where
  | load {newPath : SpotPath} {rest : List SpotPath} {files : List Bytes}
      (posted : camera.posted = newPath :: rest) (pictures : files ≠ []) :
      Move channel camera (.setImageSrcPathAsync channel files)
        (camera.setImageSrcPathAsync files) [.loaded channel newPath files] false
  | loadNone {newPath : SpotPath} {rest : List SpotPath}
      (posted : camera.posted = newPath :: rest) :
      Move channel camera (.setImageSrcPathAsync channel [])
        (camera.setImageSrcPathAsync []) [.loaded channel newPath []] true
  | nothing (m_bStartStage : Bool) (waits : ¬ camera.through) :
      Move channel camera (.onTimeout channel)
        { camera with m_bStartStage := m_bStartStage } [] false
  | takenUp {file : Bytes} (next : camera.m_imageList[camera.m_imageReadIndex]? = some file) :
      Move channel camera (.onTimeout channel)
        { camera with m_imageReadIndex := camera.m_imageReadIndex + 1 }
        [.takenUp channel file] false
  | finished (through : camera.through) :
      Move channel camera (.onTimeout channel)
        { camera with m_imageList := [], m_imageReadIndex := 0 } [] true

/-- What a step is: a start, a step of a camera, or one after which every camera is where it was but
for the start delay. -/
inductive Step (s : SpotCheck) (e : Event) : SpotCheck × List Output → Prop where
  | start {request : SpotEnable} (start : starts e = some request) :
      Step s e ({ s with s_spotDetectimageCount := 0 }.onStart request, [])
  | camera {channel : Int} {camera camera' : SoftCamera} {outs : List Output} {done : Bool}
      {s' : SpotCheck} (held : s.virtualCameras.lookup channel = some camera)
      (move : Move channel camera e camera' outs done)
      (cameras : s'.virtualCameras = s.virtualCameras.modify channel fun _ => camera')
      (count : s'.s_spotDetectWaitFinishCount =
        if done then s.s_spotDetectWaitFinishCount - 1 else s.s_spotDetectWaitFinishCount)
      (status : s'.m_detectStatus = s.m_detectStatus) : Step s e (s', outs)
  | still (delayed : Bool) {s' : SpotCheck} {outs : List Output} (noStart : starts e = none)
      (finishes : finishing s e = none)
      (cameras : ∀ channel, s'.virtualCameras.lookup channel =
        (s.virtualCameras.lookup channel).map fun camera =>
          { camera with m_bStartStage := delayed || camera.m_bStartStage })
      (count : s'.s_spotDetectWaitFinishCount = s.s_spotDetectWaitFinishCount)
      (status : stops e = false → s'.m_detectStatus = .FINISH_DETECT →
        s.s_spotDetectWaitFinishCount = 0 ∨ s.m_detectStatus = .FINISH_DETECT)
      (quiet : ∀ channel held, outs.foldl (note channel) held = held) : Step s e (s', outs)

theorem Step.nothing (noStart : starts e = none) (finishes : finishing s e = none) :
    Step s e (s, []) :=
  .still false noStart finishes (by simp) rfl (fun _ finished => .inr finished) fun _ _ => rfl

theorem setImageSrcPath_step (allSpot : AllSpot s) (channel : Int) (files : List Bytes) :
    Step s (.setImageSrcPathAsync channel files)
      (s.step (.setImageSrcPathAsync channel files)) := by
  cases held : s.virtualCameras.lookup channel with
  | none =>
      simp only [SpotCheck.step, held]
      exact .nothing rfl (by simp [finishing, held])
  | some camera =>
      cases posted : camera.posted with
      | nil =>
          simp only [SpotCheck.step, held, posted]
          exact .nothing rfl (by simp [finishing, held, posted])
      | cons newPath rest =>
          simp only [SpotCheck.step, held, posted, SpotCheck.onImageSrcPath,
            allSpot channel camera held, if_true]
          split
          next none =>
              subst none
              exact .camera held (.loadNone posted) rfl rfl rfl
          next pictures => exact .camera held (.load posted pictures) rfl rfl rfl

theorem onTimeout_step (allSpot : AllSpot s) (channel : Int) :
    Step s (.onTimeout channel) (s.step (.onTimeout channel)) := by
  cases held : s.virtualCameras.lookup channel with
  | none =>
      simp only [SpotCheck.step, held]
      exact .nothing rfl (by simp [finishing, held])
  | some camera =>
      have turn := camera.onTimeout_cases (allSpot channel camera held)
      simp only [SpotCheck.step, held]
      generalize camera.onTimeout = r at turn ⊢
      cases turn with
      | nothing m_bStartStage waits =>
          exact .camera held (.nothing m_bStartStage waits) rfl rfl rfl
      | takenUp file next => exact .camera held (.takenUp next) rfl rfl rfl
      | finished through => exact .camera held (.finished through) rfl rfl rfl

theorem step_cases (allSpot : AllSpot s) (e : Event) : Step s e (s.step e) := by
  cases e with
  | spotEnable runType request =>
      cases runType with
      | RunType_Infer => exact .nothing rfl rfl
      | RunType_Spot =>
          cases isStart : request.isStart with
          | true =>
              simp only [SpotCheck.step, SpotCheck.onSpotEnable, isStart, if_true]
              exact .start (by simp [starts, isStart])
          | false =>
              simp only [SpotCheck.step, SpotCheck.onSpotEnable, isStart, if_true,
                Bool.false_eq_true, if_false]
              exact .still false (by simp [starts, isStart]) rfl (by simp) rfl
                (by simp [stops, isStart]) fun _ _ => rfl
  | inquire =>
      simp only [SpotCheck.step, SpotCheck.onInquire]
      split
      next none =>
          exact .still false rfl rfl (by simp) rfl (fun _ _ => .inl none) fun _ _ => rfl
      next =>
          exact .still false rfl rfl (by simp) rfl (fun _ finished => .inr finished) fun _ _ => rfl
  | setEnabled value =>
      exact .still _ rfl rfl (lookup_setEnabled s value) rfl (fun _ finished => .inr finished)
        fun _ _ => rfl
  | setImageSrcPathAsync channel files => exact setImageSrcPath_step allSpot channel files
  | onTimeout channel => exact onTimeout_step allSpot channel

theorem Move.noStart (move : Move channel camera e camera' outs done) : starts e = none := by
  cases move <;> rfl

/-- A camera that is through with a list is named with the paths that are left to it. -/
theorem Move.finishing (held : s.virtualCameras.lookup channel = some camera)
    (move : Move channel camera e camera' outs done) :
    finishing s e = if done then some (channel, camera'.posted) else none := by
  cases move with
  | load posted pictures => simp [SpotDetect.finishing, held, posted, pictures]
  | loadNone posted =>
      simp [SpotDetect.finishing, held, posted, SoftCamera.setImageSrcPathAsync]
  | nothing _ waits => simp [SpotDetect.finishing, held, waits]
  | takenUp next => simp [SpotDetect.finishing, held, SoftCamera.not_through_of_next next]
  | finished through => simp [SpotDetect.finishing, held, through]

theorem Move.still (move : Move channel camera e camera' outs false) :
    waits camera' = waits camera := by
  cases move with
  | load posted pictures => simp [waits, posted, pictures, SoftCamera.setImageSrcPathAsync]
  | nothing | takenUp => rfl

theorem Move.through (move : Move channel camera e camera' outs true) :
    waits camera = true ∧ waits camera' = !camera'.posted.isEmpty := by
  cases move with
  | loadNone posted => simp [waits, posted, SoftCamera.setImageSrcPathAsync]
  | finished through => simp [waits, through.2.1]

/-- An orderly camera that is through has nothing else to do. -/
theorem Move.clears (move : Move channel camera e camera' outs true) (orderly : Orderly camera) :
    camera'.posted = [] := by
  cases move with
  | loadNone posted =>
      rcases orderly with none | ⟨one, -⟩
      · rw [posted] at none
        cases none
      · rw [posted] at one
        rw [SoftCamera.setImageSrcPathAsync, posted]
        exact List.eq_nil_of_length_eq_zero (Nat.succ.inj one)
  | finished through =>
      rcases orderly with none | ⟨-, list⟩
      · exact none
      · exact absurd list through.2.1

theorem step_start {request : SpotEnable} (start : starts e = some request) :
    (s.step e).1 = { s with s_spotDetectimageCount := 0 }.onStart request := by
  cases e with
  | spotEnable runType request' =>
      cases runType with
      | RunType_Infer => cases start
      | RunType_Spot =>
          simp only [starts, Option.ite_none_right_eq_some, Option.some.injEq] at start
          obtain ⟨isStart, rfl⟩ := start
          simp [SpotCheck.step, SpotCheck.onSpotEnable, isStart]
  | inquire | setEnabled | setImageSrcPathAsync | onTimeout => cases start

theorem finishing_of_start {request : SpotEnable} (start : starts e = some request) :
    finishing s e = none := by
  cases e with
  | spotEnable => rfl
  | inquire | setEnabled | setImageSrcPathAsync | onTimeout => cases start

/-- A step that is no start and finishes no list leaves counter and channels as they are. -/
theorem step_quiet (allSpot : AllSpot s) (noStart : starts e = none)
    (quiet : finishing s e = none) :
    (s.step e).1.s_spotDetectWaitFinishCount = s.s_spotDetectWaitFinishCount ∧
      ∀ channel, waiting (s.step e).1 channel = waiting s channel := by
  have step := step_cases allSpot e
  generalize s.step e = r at step ⊢
  cases step with
  | start start =>
      rw [noStart] at start
      cases start
  | @camera channel _ _ _ done _ held move cameras count =>
      rw [move.finishing held] at quiet
      cases done with
      | true => cases quiet
      | false =>
          refine ⟨count, fun other => ?_⟩
          by_cases here : other = channel
          · subst here
            simp [waiting, cameras, held, move.still]
          · simp [waiting, cameras, here]
  | still delayed _ _ cameras count =>
      refine ⟨count, fun channel => ?_⟩
      rw [waiting, cameras, Option.map_map]
      rfl

/-- A step that finishes a list takes one off the counter. -/
theorem step_finishing (allSpot : AllSpot s) {rest : List SpotPath}
    (finishes : finishing s e = some (channel, rest)) :
    (s.step e).1.s_spotDetectWaitFinishCount = s.s_spotDetectWaitFinishCount - 1 ∧
      waiting s channel = true ∧ waiting (s.step e).1 channel = !rest.isEmpty ∧
      ∀ other, other ≠ channel → waiting (s.step e).1 other = waiting s other := by
  have step := step_cases allSpot e
  generalize s.step e = r at step ⊢
  cases step with
  | start start =>
      rw [finishing_of_start start] at finishes
      cases finishes
  | @camera channel _ _ _ done _ held move cameras count =>
      rw [move.finishing held] at finishes
      cases done with
      | false => cases finishes
      | true =>
          obtain ⟨rfl, rfl⟩ := Prod.mk.inj (Option.some.inj finishes)
          obtain ⟨before, after⟩ := move.through
          refine ⟨count, ?_, ?_, fun other apart => ?_⟩
          · exact (waiting_of_lookup held).trans before
          · simp [waiting, cameras, held, after]
          · simp [waiting, cameras, apart]
  | still _ _ quiet =>
      rw [quiet] at finishes
      cases finishes

/-- A start leaves every channel it names waiting. -/
theorem counted_start {request : SpotEnable} (start : starts e = some request)
    (there : ∀ channel ∈ request.channelId, channel ∈ s.virtualCameras) :
    Counted (s.step e).1 request.channelId := by
  have all : ∀ channel ∈ request.channelId, waiting (s.step e).1 channel = true := by
    intro channel named
    obtain ⟨camera, held⟩ :=
      Option.isSome_iff_exists.mp (AList.lookup_isSome.mpr (there channel named))
    have posted : (request.channelId.filter fun c => decide (c = channel)) ≠ [] := by
      intro none
      exact (List.filter_eq_nil_iff.mp none) channel named (by simp)
    rw [step_start start, waiting, SpotCheck.onStart, lookup_setEnabled, lookup_posts]
    simp [held, waits, posted]
  rw [Counted, List.countP_eq_length.mpr all, step_start start]
  rfl

end Steps

/-! ## The counter -/

theorem countP_of_finish {p q : Int → Bool} {named : List Int} (nodup : named.Nodup) {channel : Int}
    (before : p channel = true) (after : q channel = false)
    (others : ∀ other, other ≠ channel → q other = p other) :
    named.countP p = named.countP q + if channel ∈ named then 1 else 0 := by
  induction named with
  | nil => rfl
  | cons c named ih =>
      obtain ⟨fresh, nodup⟩ := List.nodup_cons.mp nodup
      rw [List.countP_cons, List.countP_cons, ih nodup]
      by_cases here : c = channel
      · subst here
        simp [before, after, fresh]
      · simp only [others c here, List.mem_cons, Ne.symm here, false_or]
        omega

/-- **A step keeps the counter right unless it finishes a list that is not the last one of a named
channel.** -/
theorem counted_step {s : SpotCheck} (allSpot : AllSpot s) {named : List Int}
    (nodup : named.Nodup) (counted : Counted s named) {e : Event}
    (noStart : starts e = none) : Counted (s.step e).1 named ↔
      ∀ finished, finishing s e = some finished → finished.1 ∈ named ∧ finished.2 = [] := by
  cases finishes : finishing s e with
  | none =>
      obtain ⟨count, same⟩ := step_quiet allSpot noStart finishes
      refine iff_of_true ?_ nofun
      rw [Counted, count, counted, funext same]
  | some finished =>
      obtain ⟨channel, rest⟩ := finished
      obtain ⟨count, before, after, others⟩ := step_finishing allSpot finishes
      simp only [Option.some.injEq, forall_eq']
      rw [Counted, count, counted]
      by_cases last : rest = []
      · subst last
        rw [countP_of_finish nodup before after others]
        split
        next there => simp [there]
        next absent => simp [absent]
      · have same : waiting (s.step e).1 = waiting s := by
          funext other
          by_cases here : other = channel
          · rw [here, before, after]
            simpa using last
          · exact others other here
        rw [same]
        simp [last]

/-! ## Lists taken up -/

/-- A camera against what its channel has loaded and taken up: it is at work on the list, or through
with it. -/
def Logged (camera : SoftCamera) : Option Progress → Prop
  | none => camera.m_imageList = []
  | some held =>
      camera.m_imageList = held.files ∧ held.taken = held.files.take camera.m_imageReadIndex ∨
      camera.m_imageList = [] ∧ held.taken = held.files

/-- The directory a channel is left with once it has taken all calls from its queue. -/
def source (camera : SoftCamera) (held : Option Progress) : Option SpotPath :=
  camera.posted.getLast?.or (held.map Progress.newPath)

/-- The paths an event posts for a channel. -/
def posting (channel : Int) (e : Event) : List SpotPath :=
  match starts e with
  | some request => (request.channelId.filter fun c => c = channel).map request.newPath
  | none => []

/-- A camera of a channel after a step that posts some paths for it. -/
structure Follows (channel : Int) (paths : List SpotPath) (camera camera' : SoftCamera)
    (outs : List Output) : Prop where
  spot : camera'.m_isSpotCamera = camera.m_isSpotCamera
  logged : ∀ held, Logged camera held → Logged camera' (outs.foldl (note channel) held)
  source : ∀ held,
    source camera' (outs.foldl (note channel) held) = paths.getLast?.or (source camera held)
  orderly : paths = [] → Orderly camera → Orderly camera'

section Follows

variable {s : SpotCheck} {channel : Int} {camera camera' : SoftCamera}

/-- A step that leaves list and place alone. -/
theorem Follows.still {paths : List SpotPath}
    (spot : camera'.m_isSpotCamera = camera.m_isSpotCamera)
    (list : camera'.m_imageList = camera.m_imageList)
    (index : camera'.m_imageReadIndex = camera.m_imageReadIndex)
    (posted : camera'.posted = camera.posted ++ paths) {outs : List Output}
    (quiet : ∀ held, outs.foldl (note channel) held = held) :
    Follows channel paths camera camera' outs := by
  refine ⟨spot, fun held logged => ?_, fun held => ?_, fun none => ?_⟩
  · rw [quiet]
    cases held with
    | none => exact list.trans logged
    | some held =>
        simp only [Logged, list, index]
        exact logged
  · rw [quiet, SpotDetect.source, SpotDetect.source, posted, List.getLast?_append, Option.or_assoc]
  · simp [Orderly, posted, none, list]

theorem follows_load {newPath : SpotPath} {rest : List SpotPath}
    (posted : camera.posted = newPath :: rest) (files : List Bytes) :
    Follows channel [] camera (camera.setImageSrcPathAsync files)
      [.loaded channel newPath files] := by
  refine ⟨rfl, fun held _ => ?_, fun held => ?_, fun _ orderly => ?_⟩
  · simp [note, Logged, SoftCamera.setImageSrcPathAsync]
  · simp only [note, SpotDetect.source, SoftCamera.setImageSrcPathAsync, posted, List.tail_cons,
      List.foldl_cons, List.foldl_nil, if_true, List.getLast?_cons]
    cases rest.getLast? <;> rfl
  · rcases orderly with none | ⟨one, -⟩
    · rw [posted] at none
      cases none
    · refine .inl (List.eq_nil_of_length_eq_zero ?_)
      show camera.posted.tail.length = 0
      rw [List.length_tail, one]

theorem follows_take {file : Bytes}
    (next : camera.m_imageList[camera.m_imageReadIndex]? = some file) : Follows channel [] camera
      { camera with m_imageReadIndex := camera.m_imageReadIndex + 1 }
      [.takenUp channel file] := by
  refine ⟨rfl, fun held logged => ?_, fun held => ?_, fun _ orderly => orderly⟩
  · cases held with
    | none =>
        rw [show camera.m_imageList = [] from logged] at next
        simp at next
    | some held =>
        rcases logged with ⟨list, taken⟩ | ⟨none, -⟩
        · rw [list] at next
          simp [note, Logged, list, taken, List.take_add_one, next]
        · rw [none] at next
          simp at next
  · cases held <;> simp [note, SpotDetect.source]

theorem follows_finish (through : camera.through) : Follows channel [] camera
    { camera with m_imageList := [], m_imageReadIndex := 0 } [] := by
  refine ⟨rfl, fun held logged => ?_, fun held => rfl,
    fun _ orderly => orderly.imp_right fun one => ⟨one.1, rfl⟩⟩
  cases held with
  | none => exact absurd logged through.2.1
  | some held =>
      rcases logged with ⟨list, taken⟩ | ⟨none, -⟩
      · refine .inr ⟨rfl, taken.trans (List.take_of_length_le ?_)⟩
        rw [← list]
        exact through.2.2
      · exact absurd none through.2.1

theorem Move.follows {e : Event} {outs : List Output} {done : Bool}
    (move : Move channel camera e camera' outs done) :
    Follows channel [] camera camera' outs := by
  cases move with
  | load posted => exact follows_load posted _
  | loadNone posted => exact follows_load posted []
  | nothing m_bStartStage =>
      exact .still (by rfl) (by rfl) (by rfl) (by simp) fun _ => by rfl
  | takenUp next => exact follows_take next
  | finished through => exact follows_finish through

/-- A camera of another channel notes nothing. -/
theorem Move.others {e : Event} {outs : List Output} {done : Bool}
    (move : Move channel camera e camera' outs done) {other : Int} (apart : other ≠ channel)
    (held : Option Progress) : outs.foldl (note other) held = held := by
  cases move <;> simp [note, apart.symm]

/-- The cameras of a step are those that were there, one step on. -/
theorem step_follows (allSpot : AllSpot s) (e : Event)
    (found : (s.step e).1.virtualCameras.lookup channel = some camera') :
    ∃ camera, s.virtualCameras.lookup channel = some camera ∧
      Follows channel (posting channel e) camera camera' (s.step e).2 := by
  have step := step_cases allSpot e
  generalize s.step e = r at step found ⊢
  cases step with
  | start start =>
      rw [SpotCheck.onStart, lookup_setEnabled, lookup_posts, Option.map_map] at found
      obtain ⟨camera, held, rfl⟩ := Option.map_eq_some_iff.mp found
      exact ⟨camera, held,
        .still (by rfl) (by rfl) (by rfl) (by rw [posting, start]; rfl) fun _ => by rfl⟩
  | @camera moved before after _ _ _ held move cameras =>
      rw [posting, move.noStart]
      rw [cameras] at found
      by_cases here : channel = moved
      · subst here
        rw [Hash.lookup_modify_self, held] at found
        obtain rfl := Option.some.inj found
        exact ⟨before, held, move.follows⟩
      · rw [Hash.lookup_modify_ne here] at found
        exact ⟨camera', found, .still rfl rfl rfl (List.append_nil _).symm (move.others here)⟩
  | still _ noStart _ cameras _ _ quiet =>
      rw [posting, noStart]
      rw [cameras] at found
      obtain ⟨camera, held, rfl⟩ := Option.map_eq_some_iff.mp found
      exact ⟨camera, held, .still (by rfl) (by rfl) (by rfl) (by simp) (quiet channel)⟩

end Follows

/-! ## Runs -/

theorem mem_step {s : SpotCheck} (allSpot : AllSpot s) (e : Event) {channel : Int}
    (there : channel ∈ s.virtualCameras) : channel ∈ (s.step e).1.virtualCameras := by
  have step := step_cases allSpot e
  generalize s.step e = r at step ⊢
  rw [← AList.lookup_isSome] at there ⊢
  cases step with
  | start => simpa [SpotCheck.onStart, lookup_setEnabled, lookup_posts] using there
  | camera held move cameras =>
      rw [cameras, AList.lookup_isSome, Hash.mem_modify, ← AList.lookup_isSome]
      exact there
  | still _ _ _ cameras =>
      rw [cameras, Option.isSome_map]
      exact there

theorem lookup_insertAll {V : Type} (v : V) (channels : List Int) (table : Hash Int V)
    (channel : Int) :
    (channels.foldl (fun table c => table.insert c v) table).lookup channel =
      if channel ∈ channels then some v else table.lookup channel := by
  induction channels generalizing table with
  | nil => simp
  | cons c channels ih =>
      rw [List.foldl_cons, ih]
      by_cases here : channel = c
      · subst here
        simp
      · simp [here]

section Runs

variable (channels : List Int) (m_detectStatus : DetectStatus)

/-- The spot check after some events. -/
def reached (es : List Event) : SpotCheck :=
  Machine.final SpotCheck.step (.loaded channels m_detectStatus) es

/-- How far a channel is with the list it has loaded last. -/
def progress (es : List Event) (channel : Int) : Option Progress :=
  (Machine.outputs SpotCheck.step (.loaded channels m_detectStatus) es).foldl (note channel) none

theorem reached_snoc (es : List Event) (e : Event) :
    reached channels m_detectStatus (es ++ [e]) =
      ((reached channels m_detectStatus es).step e).1 :=
  Machine.final_snoc _ _ _ _

theorem progress_snoc (es : List Event) (e : Event) (channel : Int) :
    progress channels m_detectStatus (es ++ [e]) channel =
      ((reached channels m_detectStatus es).step e).2.foldl (note channel)
        (progress channels m_detectStatus es channel) := by
  rw [progress, Machine.outputs_snoc, List.foldl_append]
  rfl

/-- What a run keeps, whatever the counter is. -/
structure History (es : List Event) : Prop where
  allSpot : AllSpot (reached channels m_detectStatus es)
  there : ∀ channel ∈ channels, channel ∈ (reached channels m_detectStatus es).virtualCameras
  logged : ∀ channel camera,
    (reached channels m_detectStatus es).virtualCameras.lookup channel = some camera →
      Logged camera (progress channels m_detectStatus es channel)
  named : ∀ start, lastStart es = some start →
    start.request.channelId.Nodup ∧ ∀ channel ∈ start.request.channelId, channel ∈ channels
  source : ∀ start, lastStart es = some start → ∀ channel ∈ start.request.channelId, ∀ camera,
    (reached channels m_detectStatus es).virtualCameras.lookup channel = some camera →
      source camera (progress channels m_detectStatus es channel) =
        some (start.request.newPath channel)

variable {channels m_detectStatus}

theorem history_nil : History channels m_detectStatus [] := by
  have begun : (reached channels m_detectStatus []).virtualCameras =
      (SpotCheck.loaded channels m_detectStatus).virtualCameras := rfl
  refine ⟨fun channel camera held => ?_, fun channel named => ?_, fun channel camera held => ?_,
    nofun, nofun⟩
  · rw [begun, SpotCheck.loaded, lookup_insertAll] at held
    split at held
    next =>
        obtain rfl := Option.some.inj held
        rfl
    next => cases held
  · rw [begun, SpotCheck.loaded, ← AList.lookup_isSome, lookup_insertAll, if_pos named]
    rfl
  · rw [begun, SpotCheck.loaded, lookup_insertAll] at held
    split at held
    next =>
        obtain rfl := Option.some.inj held
        rfl
    next => cases held

/-- A start leaves each channel it names with its own directory. -/
theorem posting_of_start {e : Event} {request : SpotEnable} (start : starts e = some request)
    {channel : Int} (named : channel ∈ request.channelId) :
    (posting channel e).getLast? = some (request.newPath channel) := by
  have all : ∀ newPath ∈ posting channel e, newPath = request.newPath channel := by
    simp [posting, start]
  have some : posting channel e ≠ [] := by
    simp only [posting, start, ne_eq, List.map_eq_nil_iff, List.filter_eq_nil_iff]
    intro none
    exact none channel named (by simp)
  rw [List.getLast?_eq_some_getLast some, all _ (List.getLast_mem some)]

theorem history_snoc {es : List Event} (history : History channels m_detectStatus es) {e : Event}
    (valid : Valid channels e) : History channels m_detectStatus (es ++ [e]) := by
  have follows {channel camera} := @step_follows (reached channels m_detectStatus es) channel camera
    history.allSpot e
  refine ⟨fun channel camera found => ?_, fun channel there => ?_, fun channel camera found => ?_,
    fun start last => ?_, fun start last channel named camera found => ?_⟩
  · rw [reached_snoc] at found
    obtain ⟨before, held, follows⟩ := follows found
    exact follows.spot.trans (history.allSpot channel before held)
  · rw [reached_snoc]
    exact mem_step history.allSpot e (history.there channel there)
  · rw [reached_snoc] at found
    obtain ⟨before, held, follows⟩ := follows found
    rw [progress_snoc]
    exact follows.logged _ (history.logged channel before held)
  · rw [lastStart_snoc, remember] at last
    cases starting : starts e with
    | some request =>
        rw [starting] at last
        obtain rfl := Option.some.inj last
        exact valid request starting
    | none =>
        rw [starting] at last
        obtain ⟨before, earlier, rfl⟩ := Option.map_eq_some_iff.mp last
        exact history.named before earlier
  · rw [reached_snoc] at found
    obtain ⟨before, held, follows⟩ := follows found
    rw [progress_snoc, follows.source]
    rw [lastStart_snoc, remember] at last
    cases starting : starts e with
    | some request =>
        rw [starting] at last
        obtain rfl := Option.some.inj last
        rw [posting_of_start starting named]
        rfl
    | none =>
        rw [starting] at last
        obtain ⟨earlier, before', rfl⟩ := Option.map_eq_some_iff.mp last
        rw [posting, starting]
        exact history.source earlier before' channel named before held

theorem history {es : List Event} (valid : ∀ e ∈ es, Valid channels e) :
    History channels m_detectStatus es := by
  induction es using List.reverseRecOn with
  | nil => exact history_nil
  | append_singleton es e ih =>
      have valid := List.forall_mem_append.mp valid
      exact history_snoc (ih valid.1) (valid.2 e (List.mem_singleton_self e))

/-! ## Exactness -/

/-- Every picture of the directory a start names for the channel has been taken up. -/
def TakenUp (channels : List Int) (m_detectStatus : DetectStatus) (es : List Event)
    (request : SpotEnable) (channel : Int) : Prop :=
  waiting (reached channels m_detectStatus es) channel = false ∧
    ∃ files, progress channels m_detectStatus es channel =
      some ⟨request.newPath channel, files, files⟩

theorem exhausted_takenUp {es : List Event} (history : History channels m_detectStatus es)
    {start : Start} (last : lastStart es = some start) {channel : Int}
    (named : channel ∈ start.request.channelId)
    (exhausted : waiting (reached channels m_detectStatus es) channel = false) :
    TakenUp channels m_detectStatus es start.request channel := by
  refine ⟨exhausted, ?_⟩
  have there := history.there channel ((history.named start last).2 channel named)
  obtain ⟨camera, held⟩ := Option.isSome_iff_exists.mp (AList.lookup_isSome.mpr there)
  have source := history.source start last channel named camera held
  have logged := history.logged channel camera held
  rw [waiting_of_lookup held, waits_eq_false] at exhausted
  obtain ⟨posted, list⟩ := exhausted
  rw [SpotDetect.source, posted] at source
  obtain ⟨⟨newPath, files, taken⟩, here, rfl⟩ := Option.map_eq_some_iff.mp source
  rw [here] at logged
  obtain rfl : taken = files := by
    rcases logged with ⟨held, taken⟩ | ⟨-, taken⟩
    · rw [list] at held
      subst held
      simpa using taken
    · exact taken
  exact ⟨taken, here⟩

/-- What a start promises: the counter is the number of its channels that are not through, and an
inquiry hears of the end, without a stop, only when all pictures have been taken up. -/
structure Complete (channels : List Int) (m_detectStatus : DetectStatus) (es : List Event)
    (start : Start) : Prop where
  counted : Counted (reached channels m_detectStatus es) start.request.channelId
  answered : start.stopped = false → ∀ total_number,
    .status .FINISH_DETECT total_number ∈ ((reached channels m_detectStatus es).step .inquire).2 →
      ∀ channel ∈ start.request.channelId,
        TakenUp channels m_detectStatus es start.request channel

/-- A list that is finished is the last one of a channel that the last start names. -/
def LastOfNamed (channels : List Int) (m_detectStatus : DetectStatus) (es : List Event)
    (e : Event) : Prop :=
  ∀ start, lastStart es = some start →
    ∀ finished, finishing (reached channels m_detectStatus es) e = some finished →
      finished.1 ∈ start.request.channelId ∧ finished.2 = []

instance (channels : List Int) (m_detectStatus : DetectStatus) (es : List Event) (e : Event) :
    Decidable (LastOfNamed channels m_detectStatus es e) :=
  inferInstanceAs (Decidable (∀ start ∈ lastStart es, ∀ finished ∈ finishing _ e, _))

theorem answers_iff {s : SpotCheck} :
    (∃ total_number, .status .FINISH_DETECT total_number ∈ (s.step .inquire).2) ↔
      s.s_spotDetectWaitFinishCount = 0 ∨ s.m_detectStatus = .FINISH_DETECT := by
  simp only [SpotCheck.step, SpotCheck.onInquire, List.mem_singleton, Output.status.injEq]
  split
  next none => simp [none]
  next some => simp [some, eq_comm]

/-- A channel that is through stays so until the next start. -/
theorem exhausted_step {s : SpotCheck} (allSpot : AllSpot s) {e : Event} (noStart : starts e = none)
    {channel : Int} (exhausted : waiting s channel = false) :
    waiting (s.step e).1 channel = false := by
  cases finishes : finishing s e with
  | none =>
      rw [(step_quiet allSpot noStart finishes).2 channel]
      exact exhausted
  | some finished =>
      obtain ⟨-, before, -, others⟩ := step_finishing allSpot finishes
      have apart : channel ≠ finished.1 := by
        rintro rfl
        rw [before] at exhausted
        cases exhausted
      rw [others channel apart]
      exact exhausted

/-- The check is not reported finished by any other step than an inquiry or a stop. -/
theorem finished_step {s : SpotCheck} (allSpot : AllSpot s) {e : Event} (noStart : starts e = none)
    (noStop : stops e = false) (finished : (s.step e).1.m_detectStatus = .FINISH_DETECT) :
    s.s_spotDetectWaitFinishCount = 0 ∨ s.m_detectStatus = .FINISH_DETECT := by
  have step := step_cases allSpot e
  generalize s.step e = r at step finished
  cases step with
  | start start =>
      rw [noStart] at start
      cases start
  | camera held move cameras count status => exact .inr (status.symm.trans finished)
  | still _ _ _ _ _ status => exact status noStop finished

theorem complete_start {es : List Event} (history : History channels m_detectStatus es) {e : Event}
    {request : SpotEnable} (start : starts e = some request) (valid : Valid channels e) :
    Complete channels m_detectStatus (es ++ [e]) ⟨request, false⟩ := by
  have there : ∀ channel ∈ request.channelId,
      channel ∈ (reached channels m_detectStatus es).virtualCameras :=
    fun channel named => history.there channel ((valid request start).2 channel named)
  have begun := step_start (s := reached channels m_detectStatus es) start
  constructor
  · rw [reached_snoc]
    exact counted_start start there
  · intro _ total_number answer channel named
    rw [reached_snoc, begun] at answer
    rcases answers_iff.mp ⟨total_number, answer⟩ with none | finished
    · have none : request.channelId = [] := List.eq_nil_of_length_eq_zero (Int.ofNat_inj.mp none)
      rw [none] at named
      cases named
    · cases finished

/-- **Which step keeps the promise.** -/
theorem complete_turn {es : List Event} (history : History channels m_detectStatus es) {e : Event}
    (valid : Valid channels e)
    (complete : ∀ start, lastStart es = some start → Complete channels m_detectStatus es start) :
    (∀ start, lastStart (es ++ [e]) = some start →
      Complete channels m_detectStatus (es ++ [e]) start) ↔
      LastOfNamed channels m_detectStatus es e := by
  have history' := history_snoc history valid
  cases starting : starts e with
  | some request =>
      refine iff_of_true (fun start last => ?_) fun start _ finished finishes => ?_
      · rw [lastStart_snoc, remember, starting] at last
        obtain rfl := Option.some.inj last
        exact complete_start history starting valid
      · rw [finishing_of_start starting] at finishes
        cases finishes
  | none =>
      have turn {start : Start} (last : lastStart es = some start) :=
        counted_step history.allSpot (history.named start last).1 (complete start last).counted
          starting
      rw [← reached_snoc] at turn
      constructor
      · intro complete' start last
        refine (turn last).mp ?_
        have last' : lastStart (es ++ [e]) =
            some { start with stopped := start.stopped || stops e } := by
          rw [lastStart_snoc, remember, starting, last]
          rfl
        exact (complete' _ last').counted
      · intro lastOfNamed start' last'
        have earlier := last'
        rw [lastStart_snoc, remember, starting] at earlier
        obtain ⟨start, last, rfl⟩ := Option.map_eq_some_iff.mp earlier
        have counted := (turn last).mpr (lastOfNamed start last)
        refine ⟨counted, fun running total_number answer channel named => ?_⟩
        obtain ⟨running, noStop⟩ := Bool.or_eq_false_iff.mp running
        refine exhausted_takenUp history' last' named ?_
        rcases answers_iff.mp ⟨total_number, answer⟩ with none | finished
        · rw [Counted, none] at counted
          have := List.countP_eq_zero.mp (Int.ofNat_inj.mp counted.symm)
          simpa using this channel named
        · rw [reached_snoc] at finished ⊢
          have earlier := answers_iff.mpr (finished_step history.allSpot starting noStop finished)
          obtain ⟨total_number, answer⟩ := earlier
          have through := (complete start last).answered running total_number answer channel named
          exact exhausted_step history.allSpot starting through.1

/-! ## One check after the other -/

/-- A start finds no camera at work. -/
def Idle (channels : List Int) (m_detectStatus : DetectStatus) (es : List Event) (e : Event) :
    Prop :=
  ∀ request, starts e = some request →
    ∀ channel, waiting (reached channels m_detectStatus es) channel = false

/-- A camera at work is one of the last start, and has one thing to do. -/
def Tidy (channels : List Int) (m_detectStatus : DetectStatus) (es : List Event) : Prop :=
  ∀ channel camera,
    (reached channels m_detectStatus es).virtualCameras.lookup channel = some camera →
      Orderly camera ∧ (waits camera = true →
        ∃ start, lastStart es = some start ∧ channel ∈ start.request.channelId)

theorem lookup_start {s : SpotCheck} {channel : Int} {camera' : SoftCamera} {e : Event}
    {request : SpotEnable} (start : starts e = some request)
    (found : (s.step e).1.virtualCameras.lookup channel = some camera') :
    ∃ camera, s.virtualCameras.lookup channel = some camera ∧
      camera'.m_imageList = camera.m_imageList ∧
      camera'.posted = camera.posted ++ posting channel e := by
  rw [step_start start, SpotCheck.onStart, lookup_setEnabled, lookup_posts, Option.map_map] at found
  obtain ⟨camera, held, rfl⟩ := Option.map_eq_some_iff.mp found
  refine ⟨camera, held, rfl, ?_⟩
  rw [posting, start]
  rfl

theorem posting_length {e : Event} {request : SpotEnable} (start : starts e = some request)
    (channel : Int) : (posting channel e).length = request.channelId.count channel := by
  rw [posting, start, List.length_map, List.count_eq_length_filter]
  congr

theorem tidy_start {es : List Event} {e : Event} {request : SpotEnable}
    (start : starts e = some request) (valid : Valid channels e)
    (idle : Idle channels m_detectStatus es e) : Tidy channels m_detectStatus (es ++ [e]) := by
  intro channel camera' found
  rw [reached_snoc] at found
  obtain ⟨camera, held, list, posted⟩ := lookup_start start found
  have idle := idle request start channel
  rw [waiting_of_lookup held, waits_eq_false] at idle
  rw [idle.1, List.nil_append] at posted
  rw [idle.2] at list
  have one := posting_length start channel
  rw [← posted] at one
  by_cases named : channel ∈ request.channelId
  · rw [List.count_eq_one_of_mem (valid request start).1 named] at one
    refine ⟨.inr ⟨one, list⟩, fun _ => ⟨⟨request, false⟩, ?_, named⟩⟩
    rw [lastStart_snoc, remember, start]
  · rw [List.count_eq_zero.mpr named] at one
    have none := List.eq_nil_of_length_eq_zero one
    refine ⟨.inl none, fun waits => ?_⟩
    rw [waits_eq_false.mpr ⟨none, list⟩] at waits
    cases waits

theorem tidy_turn {es : List Event} (history : History channels m_detectStatus es) {e : Event}
    (noStart : starts e = none) (tidy : Tidy channels m_detectStatus es) :
    Tidy channels m_detectStatus (es ++ [e]) := by
  intro channel camera' found
  have found' := found
  rw [reached_snoc] at found
  obtain ⟨camera, held, follows⟩ := step_follows history.allSpot e found
  obtain ⟨orderly, named⟩ := tidy channel camera held
  refine ⟨follows.orderly (by rw [posting, noStart]) orderly, fun works => ?_⟩
  rw [← waiting_of_lookup found', reached_snoc] at works
  have before : waits camera = true := by
    rw [← waiting_of_lookup held]
    by_contra exhausted
    rw [Bool.not_eq_true] at exhausted
    rw [exhausted_step history.allSpot noStart exhausted] at works
    cases works
  obtain ⟨start, last, named⟩ := named before
  refine ⟨{ start with stopped := start.stopped || stops e }, ?_, named⟩
  rw [lastStart_snoc, remember, noStart, last]
  rfl

theorem tidy_nil : Tidy channels m_detectStatus [] := by
  intro channel camera held
  rw [show (reached channels m_detectStatus []).virtualCameras =
    (SpotCheck.loaded channels m_detectStatus).virtualCameras from rfl, SpotCheck.loaded,
    lookup_insertAll] at held
  split at held
  next =>
      obtain rfl := Option.some.inj held
      exact ⟨.inl rfl, nofun⟩
  next => cases held

/-- Whoever finishes a list in tidy order finishes the last one of a named channel. -/
theorem lastOfNamed_of_tidy {es : List Event} (history : History channels m_detectStatus es)
    (tidy : Tidy channels m_detectStatus es) (e : Event) :
    LastOfNamed channels m_detectStatus es e := by
  intro start last finished finishes
  have step := step_cases history.allSpot e
  generalize (reached channels m_detectStatus es).step e = r at step
  cases step with
  | start start =>
      rw [finishing_of_start start] at finishes
      cases finishes
  | @camera channel camera camera' _ done _ held move =>
      rw [move.finishing held] at finishes
      cases done with
      | false => cases finishes
      | true =>
          obtain rfl := Option.some.inj finishes
          obtain ⟨orderly, named⟩ := tidy channel camera held
          obtain ⟨start', last', named⟩ := named move.through.1
          obtain rfl := Option.some.inj (last.symm.trans last')
          exact ⟨named, move.clears orderly⟩
  | still _ _ quiet =>
      rw [quiet] at finishes
      cases finishes

/-- **One check after the other**: where every start finds the cameras idle, only the last lists of
named channels are finished. -/
theorem lastOfNamed_of_idle {es : List Event} (valid : ∀ e ∈ es, Valid channels e)
    (idle : Machine.Always (Idle channels m_detectStatus) es) :
    Machine.Always (LastOfNamed channels m_detectStatus) es := by
  have tidy : ∀ first, first <+: es → Tidy channels m_detectStatus first := by
    refine Machine.prefixes_of_turns tidy_nil (fun first e here tidy idle => ?_) idle
    have valid : ∀ e' ∈ first ++ [e], Valid channels e' := fun e' inside =>
      valid e' (here.subset inside)
    obtain ⟨before, last⟩ := List.forall_mem_append.mp valid
    cases starting : starts e with
    | some request => exact tidy_start starting (last e (List.mem_singleton_self e)) idle
    | none => exact tidy_turn (history before) starting tidy
  intro first e rest split
  have here : first <+: es := ⟨e :: rest, split.symm⟩
  have history : History channels m_detectStatus first := history fun e inside =>
    valid e (here.subset inside)
  exact lastOfNamed_of_tidy history (tidy first here) e

/-- **The spot checks that are exact**: after every start the counter is the number of channels that
start names whose list is not exhausted, and an inquiry hears of the end only when all pictures have
been taken up, exactly when no list is finished but the last one of a channel of the last start. -/
theorem complete_iff (channels : List Int) (m_detectStatus : DetectStatus) (es : List Event)
    (valid : ∀ e ∈ es, Valid channels e) :
    (∀ first, first <+: es → ∀ start, lastStart first = some start →
      Complete channels m_detectStatus first start) ↔
      Machine.Always (LastOfNamed channels m_detectStatus) es := by
  refine Machine.prefixes_iff_turns nofun fun first e here complete => ?_
  have valid : ∀ e' ∈ first ++ [e], Valid channels e' := fun e' inside =>
    valid e' (here.subset inside)
  obtain ⟨before, last⟩ := List.forall_mem_append.mp valid
  exact complete_turn (history before) (last e (List.mem_singleton_self e)) complete

end Runs

/-- Two channels are checked; while the second is at its picture, the first one is started anew. -/
def restarted : List Event :=
  let both : SpotEnable := { isStart := true, channelId := [1, 2], brandId := 7, type := 1 }
  [.spotEnable .RunType_Spot both, .setImageSrcPathAsync 1 ["1.bmp".toUTF8.toList],
    .setImageSrcPathAsync 2 ["2.bmp".toUTF8.toList], .onTimeout 2, .onTimeout 2,
    .spotEnable .RunType_Spot { both with channelId := [1] }, .onTimeout 2]

/-- The check of the first channel is reported finished before it begins with its directory. -/
theorem restarted_incomplete :
    (∀ e ∈ restarted, Valid [1, 2] e) ∧
      ¬ ∀ first, first <+: restarted → ∀ start, lastStart first = some start →
        Complete [1, 2] .STOP_DETECT first start := by
  refine ⟨by decide, fun complete => ?_⟩
  have complete := complete restarted List.prefix_rfl _ rfl
  have answer : Output.status .FINISH_DETECT 0 ∈
      ((reached [1, 2] .STOP_DETECT restarted).step .inquire).2 := by decide
  have waits : waiting (reached [1, 2] .STOP_DETECT restarted) 1 = true := by decide
  have through := (complete.answered rfl 0 answer 1 (by decide)).1
  rw [waits] at through
  cases through

/-- Both channels get through, the second one with an empty directory. -/
def undisturbed : List Event :=
  [.spotEnable .RunType_Spot { isStart := true, channelId := [1, 2], brandId := 7, type := 1 },
    .setImageSrcPathAsync 1 ["1.bmp".toUTF8.toList], .onTimeout 1, .setImageSrcPathAsync 2 [],
    .onTimeout 1, .onTimeout 1, .inquire]

theorem undisturbed_complete : (∀ e ∈ undisturbed, Valid [1, 2] e) ∧
    ∀ first, first <+: undisturbed → ∀ start, lastStart first = some start →
      Complete [1, 2] .STOP_DETECT first start := by
  have valid : ∀ e ∈ undisturbed, Valid [1, 2] e := by decide
  exact ⟨valid, (complete_iff [1, 2] .STOP_DETECT undisturbed valid).mpr (by decide)⟩

end SpotDetect

end IsgConsole.IopAgent
