/-
# IasAgent.BatchRetry — an AI channel after a model that does not load

`addAiInference` stores the new inference before it loads it, and a load that returns false
leaves it there, not initialised.  `addAiInference` only looks at whether an inference is there
and `releaseModel` only at whether it is initialised, so such a channel keeps its inference
to the end: no later ADD is let in, and nothing releases it (`retry_after_failure`).
-/
import IsgConsole.IasAgent.BatchOperate
import IsgConsole.Theory.Loop

namespace IsgConsole.IasAgent.BatchOperate

open IsgConsole.Theory IsgConsole.BaseLib IsgConsole.IasBase IsgConsole.Theory.Json

set_option autoImplicit false

variable {ai : AiAlgorithms} (qt : QtJson)

/-! ## Runs -/

/-- What an AI channel is asked: an operation of the policy server, the load of its own
configuration, or the release at its end. -/
inductive Operation where
  | operate (op_type : Int) (inputJson resultJson : JsonObject) (fileOpens : Bool)
  | initModel (inputJson : JsonObject)
  | releaseModel

/-- What the loads of a new inference return while it is added. -/
def loads (self : BatchOperate ai) (inputJson : JsonObject) : List Bool :=
  match self.m_aiInference, ai.getAiInference (IasJsonParser.getComponentType inputJson) with
  | none, some made => ((self.loadNew qt inputJson made).map Prod.fst).toList
  | _, _ => []

/-- One operation; beside the channel stands what the loads have returned so far.  `none` when
the process ends. -/
def operation (s : BatchOperate ai × List Bool) : Operation → Option (BatchOperate ai × List Bool)
  | .operate op_type inputJson resultJson fileOpens =>
      (s.1.onOperateInfer qt op_type inputJson resultJson fileOpens).map fun done =>
        (done.2.2, s.2 ++ if op_type = AI_OPERATION_ADD then s.1.loads qt inputJson else [])
  | .initModel inputJson =>
      (s.1.addAiInference qt inputJson).map fun done => (done.2, s.2 ++ s.1.loads qt inputJson)
  | .releaseModel => some (s.1.releaseModel, s.2)

/-- A channel as it is constructed. -/
def start (m_algorithmJsonFilePath : Bytes) (m_channelID : Int) : BatchOperate ai :=
  { m_aiInference := none, m_algorithmJsonFilePath := m_algorithmJsonFilePath,
    m_channelID := m_channelID, m_bInitOK := false }

/-- The channel after these operations, and what the loads have returned. -/
def run (self : BatchOperate ai) (ops : List Operation) : Option (BatchOperate ai × List Bool) :=
  ops.foldlM (operation qt) (self, [])

/-! ## What every state has -/

/-- An inference is there and is not initialised. -/
def Stuck (self : BatchOperate ai) : Prop :=
  self.m_aiInference.isSome = true ∧ self.m_bInitOK = false

/-- An initialised channel has an inference, and one is stuck when a load has failed. -/
structure Kept (s : BatchOperate ai × List Bool) : Prop where
  held : s.1.m_bInitOK = true → s.1.m_aiInference.isSome = true
  failed : false ∈ s.2 ↔ Stuck s.1

theorem Kept.free {s : BatchOperate ai × List Bool} (kept : Kept s)
    (free : s.1.m_aiInference = none) : s.1.m_bInitOK = false ∧ false ∉ s.2 := by
  constructor
  · cases ready : s.1.m_bInitOK with
    | false => rfl
    | true =>
        have held := kept.held ready
        rw [free] at held
        cases held
  · intro failed
    have held := (kept.failed.mp failed).1
    rw [free] at held
    cases held

/-- Everything an ADD can do: refuse, or load a new inference. -/
theorem addAiInference_cases {self after : BatchOperate ai} {inputJson : JsonObject} {ok : Bool}
    (done : self.addAiInference qt inputJson = some (ok, after)) :
    (after = self ∧ ok = false ∧ self.loads qt inputJson = []) ∨
    ∃ loaded, self.m_aiInference = none ∧ self.loads qt inputJson = [loaded.1] ∧ ok = loaded.1 ∧
      after = self.withLoaded inputJson loaded := by
  unfold addAiInference at done
  split at done
  next held =>
      obtain ⟨rfl, rfl⟩ := Prod.mk.inj (Option.some.inj done)
      obtain ⟨aiInference, there⟩ := Option.isSome_iff_exists.mp held
      exact .inl ⟨rfl, rfl, by simp [loads, there]⟩
  next free =>
      have none_there : self.m_aiInference = none := by simpa using free
      split at done
      next unknown =>
          obtain ⟨rfl, rfl⟩ := Prod.mk.inj (Option.some.inj done)
          exact .inl ⟨rfl, rfl, by simp [loads, unknown]⟩
      next made factory =>
          split at done
          next => cases done
          next loaded load =>
              obtain ⟨rfl, rfl⟩ := Prod.mk.inj (Option.some.inj done)
              exact .inr ⟨loaded, none_there, by simp [loads, none_there, factory, load], rfl, rfl⟩

theorem add_kept {self after : BatchOperate ai} {results : List Bool} {inputJson : JsonObject}
    {ok : Bool} (kept : Kept (self, results))
    (done : self.addAiInference qt inputJson = some (ok, after)) :
    Kept (after, results ++ self.loads qt inputJson) := by
  rcases addAiInference_cases qt done with ⟨rfl, -, nothing⟩ | ⟨loaded, free, one, -, rfl⟩
  · rw [nothing, List.append_nil]
    exact kept
  · obtain ⟨idle, fine⟩ := kept.free free
    dsimp only at idle fine
    rw [one]
    refine ⟨fun _ => rfl, ?_⟩
    simp only [Stuck, withLoaded, idle, Option.isSome_some, true_and, List.mem_append, fine,
      false_or, List.mem_singleton]
    cases loaded.1 <;> simp

/-- An operation that moves neither inference nor flag, but for the state of the inference. -/
theorem Kept.same {self after : BatchOperate ai} {results : List Bool} (kept : Kept (self, results))
    (held : after.m_aiInference.isSome = self.m_aiInference.isSome)
    (flag : after.m_bInitOK = self.m_bInitOK) : Kept (after, results) := by
  constructor
  · intro ready
    rw [held]
    exact kept.held (flag ▸ ready)
  · rw [kept.failed, Stuck, Stuck, held, flag]

theorem update_kept {self after : BatchOperate ai} {results : List Bool} {inputJson : JsonObject}
    {ok : Bool} (kept : Kept (self, results))
    (done : self.updateAiInference qt inputJson = some (ok, after)) : Kept (after, results) := by
  unfold updateAiInference at done
  split at done
  next =>
      obtain ⟨-, rfl⟩ := Prod.mk.inj (Option.some.inj done)
      exact kept
  next aiInference there =>
      split at done
      next => cases done
      next updated _ =>
          obtain ⟨-, rfl⟩ := Prod.mk.inj (Option.some.inj done)
          exact kept.same (by simp [there]) rfl

theorem release_kept {self : BatchOperate ai} {results : List Bool} (kept : Kept (self, results)) :
    Kept (self.releaseModel, results) := by
  unfold releaseModel
  split
  next ready =>
      refine ⟨fun flag => absurd flag Bool.false_ne_true, ?_⟩
      rw [kept.failed, Stuck, Stuck]
      simp [ready]
  next => exact kept

/-- One operation. -/
theorem operation_kept {s s' : BatchOperate ai × List Bool} (op : Operation) (kept : Kept s)
    (done : operation qt s op = some s') : Kept s' := by
  obtain ⟨self, results⟩ := s
  cases op with
  | operate op_type inputJson resultJson fileOpens =>
      obtain ⟨⟨ok, answer, after⟩, operated, rfl⟩ := Option.map_eq_some_iff.mp done
      unfold onOperateInfer at operated
      dsimp only at operated
      split at operated
      next add =>
          obtain ⟨⟨_, _⟩, added, same⟩ := Option.map_eq_some_iff.mp operated
          obtain ⟨rfl, -, rfl⟩ := by simpa using same
          rw [if_pos add]
          exact add_kept qt kept added
      next other =>
          rw [if_neg other, List.append_nil]
          split at operated
          next =>
              obtain ⟨⟨_, _⟩, updated, same⟩ := Option.map_eq_some_iff.mp operated
              obtain ⟨rfl, -, rfl⟩ := by simpa using same
              exact update_kept qt kept updated
          next =>
              have unchanged : after = self := by
                split at operated
                · split at operated <;> simp_all
                · simp_all
              rw [unchanged]
              exact kept
  | initModel inputJson =>
      obtain ⟨⟨ok, after⟩, added, rfl⟩ := Option.map_eq_some_iff.mp done
      exact add_kept qt kept added
  | releaseModel =>
      obtain rfl := Option.some.inj done
      exact release_kept kept

variable {m_algorithmJsonFilePath : Bytes} {m_channelID : Int}

/-- Every run. -/
theorem run_kept {ops : List Operation} {s : BatchOperate ai × List Bool}
    (ran : run qt (start m_algorithmJsonFilePath m_channelID) ops = some s) : Kept s :=
  Loop.foldlM_keeps (P := Kept) (fun _ op _ kept done => operation_kept qt op kept done)
    ⟨fun flag => absurd flag Bool.false_ne_true, by simp [Stuck, start]⟩ ran

/-! ## After a load that failed -/

/-- The channel is as it was before anything was loaded: the next inference that loads is let in,
and there is nothing to update. -/
structure Retryable (channel : BatchOperate ai) : Prop where
  nothing : channel.m_aiInference = none ∧ channel.m_bInitOK = false
  again : ∀ inputJson made inference,
    ai.getAiInference (IasJsonParser.getComponentType inputJson) = some made →
    channel.loadNew qt inputJson made = some (true, inference) →
    ∃ after, channel.addAiInference qt inputJson = some (true, after)
  refused : ∀ inputJson, channel.updateAiInference qt inputJson = some (false, channel)

/-- An ADD that gets as far as the load of its model. -/
theorem addAiInference_free {self : BatchOperate ai} {inputJson : JsonObject}
    {made : ai.Inference} {loaded : Bool × ai.Inference} (free : self.m_aiInference = none)
    (factory : ai.getAiInference (IasJsonParser.getComponentType inputJson) = some made)
    (load : self.loadNew qt inputJson made = some loaded) :
    self.addAiInference qt inputJson = some (loaded.1, self.withLoaded inputJson loaded) := by
  simp [addAiInference, free, factory, load]

/-- Whoever holds an inference lets no other in. -/
theorem addAiInference_held {self : BatchOperate ai} (held : self.m_aiInference.isSome = true)
    (inputJson : JsonObject) : self.addAiInference qt inputJson = some (false, self) := by
  rw [addAiInference, if_pos held]

/-- What an ADD that gets as far as the load leaves of the channel. -/
theorem operation_add {self : BatchOperate ai} {inputJson : JsonObject}
    {made : ai.Inference} {loaded : Bool × ai.Inference} (free : self.m_aiInference = none)
    (factory : ai.getAiInference (IasJsonParser.getComponentType inputJson) = some made)
    (load : self.loadNew qt inputJson made = some loaded) (results : List Bool)
    (resultJson : JsonObject) (fileOpens : Bool) :
    operation qt (self, results) (.operate AI_OPERATION_ADD inputJson resultJson fileOpens) =
      some (self.withLoaded inputJson loaded, results ++ [loaded.1]) := by
  simp [operation, onOperateInfer, addAiInference_free qt free factory load, loads, free, factory,
    load]

theorem operation_held {self : BatchOperate ai} (held : self.m_aiInference.isSome = true)
    (inputJson resultJson : JsonObject) (results : List Bool) (fileOpens : Bool) :
    operation qt (self, results) (.operate AI_OPERATION_ADD inputJson resultJson fileOpens) =
      some (self, results) := by
  obtain ⟨aiInference, there⟩ := Option.isSome_iff_exists.mp held
  simp [operation, onOperateInfer, addAiInference_held qt held, loads, there]

/-- A release leaves nothing unless the channel is stuck. -/
theorem releaseModel_iff {self : BatchOperate ai} :
    self.releaseModel.m_aiInference = none ↔ ¬ Stuck self := by
  unfold releaseModel Stuck
  cases ready : self.m_bInitOK with
  | true => simp
  | false => simp

/-- **A failed ADD cannot be retried**: in every run, a channel without an inference that fails to
load one is not as it was, and lets no other in; and a release leaves nothing exactly when
no load of the run has failed. -/
theorem retry_after_failure {ops : List Operation} {self : BatchOperate ai} {results : List Bool}
    (ran : run qt (start m_algorithmJsonFilePath m_channelID) ops = some (self, results)) :
    (∀ inputJson made inference, self.m_aiInference = none →
      ai.getAiInference (IasJsonParser.getComponentType inputJson) = some made →
      self.loadNew qt inputJson made = some (false, inference) →
      ∃ after, self.addAiInference qt inputJson = some (false, after) ∧ ¬ Retryable qt after ∧
        ∀ later, after.addAiInference qt later = some (false, after)) ∧
    (self.releaseModel.m_aiInference = none ↔ false ∉ results) := by
  have kept := run_kept qt ran
  constructor
  · intro inputJson made inference free factory failed
    refine ⟨_, addAiInference_free qt free factory failed, fun retryable => ?_,
      addAiInference_held qt rfl⟩
    cases retryable.nothing.1
  · rw [releaseModel_iff, kept.failed]

/-- Inferences of which only component 7 loads. -/
def pickyAlgorithms : AiAlgorithms :=
  { Inference := Unit
    getAiInference := fun _ => some ()
    load := fun _ aiInference => some (aiInference.m_id = 7, ())
    update := fun _ _ => some (true, ()) }

/-- A channel of such inferences. -/
def pickyChannel : BatchOperate pickyAlgorithms := start [] 1

/-- A configuration that names component 7. -/
def loadableJson : JsonObject := [(utf8 "componentId", int 7)]

theorem picky_fails (self : BatchOperate pickyAlgorithms) :
    self.loadNew .reference [] () = some (false, ()) := by
  have six : ¬ IasJsonParser.getComponentId [] = 7 := by decide +kernel
  simp [loadNew, pickyAlgorithms, six]

theorem picky_loads (self : BatchOperate pickyAlgorithms) :
    self.loadNew .reference loadableJson () = some (true, ()) := by
  have seven : IasJsonParser.getComponentId loadableJson = 7 := by decide +kernel
  simp [loadNew, pickyAlgorithms, seven]

/-- The channel behind an ADD of another component. -/
def pickyStuck : BatchOperate pickyAlgorithms := pickyChannel.withLoaded [] (false, ())

/-- An ADD that fails, and one of component 7. -/
def pickyRetry : List Operation :=
  [.operate AI_OPERATION_ADD [] [] true, .operate AI_OPERATION_ADD loadableJson [] true]

theorem pickyRetry_run : run .reference pickyChannel pickyRetry = some (pickyStuck, [false]) := by
  have failed := operation_add .reference rfl rfl (picky_fails pickyChannel) [] [] true
  have refused : operation .reference (pickyStuck, [false])
      (.operate AI_OPERATION_ADD loadableJson [] true) = some (pickyStuck, [false]) :=
    operation_held .reference rfl loadableJson [] [false] true
  rw [run, pickyRetry, List.foldlM_cons, failed, Option.bind_eq_bind, Option.bind_some,
    List.foldlM_cons]
  exact congrArg (Option.bind · some) refused

/-- The ADD fails on the new channel, and behind the second one a release leaves the inference. -/
theorem retry_picky :
    (∃ after, pickyChannel.addAiInference .reference [] = some (false, after) ∧
      ¬ Retryable .reference after ∧
      ∀ later, after.addAiInference .reference later = some (false, after)) ∧
    pickyStuck.releaseModel.m_aiInference ≠ none := by
  have fresh : run .reference pickyChannel [] = some (pickyChannel, []) := rfl
  constructor
  · exact (retry_after_failure .reference fresh).1 [] () () rfl rfl (picky_fails pickyChannel)
  · intro released
    exact (retry_after_failure .reference pickyRetry_run).2.mp released (List.mem_singleton_self _)

/-- Component 7 is refused behind one that did not load, which an update then reaches and which
stays when the model is released. -/
theorem picky_not_retried :
    ∃ after : BatchOperate pickyAlgorithms,
      pickyChannel.addAiInference .reference [] = some (false, after) ∧
      (∃ loaded, pickyChannel.addAiInference .reference loadableJson = some (true, loaded)) ∧
      after.addAiInference .reference loadableJson = some (false, after) ∧
      (after.updateAiInference .reference []).map Prod.fst = some true ∧
      after.releaseModel.m_aiInference ≠ none := by
  refine ⟨_, addAiInference_free .reference rfl rfl (picky_fails pickyChannel), ?again, ?held, rfl,
    nofun⟩
  case again => exact ⟨_, addAiInference_free .reference rfl rfl (picky_loads pickyChannel)⟩
  case held => exact addAiInference_held .reference rfl _

end IsgConsole.IasAgent.BatchOperate
