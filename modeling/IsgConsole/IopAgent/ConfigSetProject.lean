/-
# IopAgent.ConfigSetProject — the attributes of the project as those of a console

The attributes of `EngineProject` meet what a console asks for: apart from `enabled` their setters
save a file or set the report rates of the result module, and whether the project would save
depends on the path of its parameters, which only a trusted call changes.

* `projectConsole` — the console of the repository.
-/
import IsgConsole.IopAgent.ConfigSetEffects

namespace IsgConsole.IopAgent.ConfigSet

open IsgConsole.Theory IsgConsole.BaseLib IsgConsole.Theory.Json

set_option autoImplicit false

variable {W : Type}

/-- What the calls of the project switch, and leave alone. -/
structure ProjectLaws (d : Devices W) (out : ProjectCalls (Outside W)) : Prop where
  onStarted : out.onStarted = d.switchAll true
  onStopped : out.onStopped = d.switchAll false
  saveConfigFile : ∀ w path value, (out.saveConfigFile w path value).objects = w.objects ∧
    (out.saveConfigFile w path value).kickDelays = w.kickDelays
  originalReportRateSet : ∀ w rate, (out.originalReportRateSet w rate).objects = w.objects ∧
    (out.originalReportRateSet w rate).kickDelays = w.kickDelays
  binningReportRateSet : ∀ w rate, (out.binningReportRateSet w rate).objects = w.objects ∧
    (out.binningReportRateSet w rate).kickDelays = w.kickDelays
  /-- No object comes or goes. -/
  m_objects : ∀ w w', out.m_objects w = [] ↔ out.m_objects w' = []

/-- What is outside of the project after a value that is not trusted. -/
theorem setValue_world (a : Attribute (Outside W)) (s : Project W) (value : Json) :
    (a.setValue s value false).2.world = s.world ∨
      ∃ f, a.m_setter = some (.device f) ∧
        (a.setValue s value false).2.world = (f s value (s.m_value a.m_key) false).2 := by
  by_cases mismatch : jsonType value ≠ jsonType (s.m_value a.m_key)
  · rw [Attribute.setValue, if_pos mismatch]
    exact .inl rfl
  · cases setter : a.m_setter with
    | none =>
        rw [Attribute.setValue, if_neg mismatch, setter]
        exact .inl rfl
    | some setter' =>
        cases setter' with
        | file sets load =>
            rw [Attribute.setValue, if_neg mismatch, setter]
            exact .inl rfl
        | device f =>
            refine .inr ⟨f, rfl, ?_⟩
            rw [Attribute.setValue, if_neg mismatch, setter]
            dsimp only [Setter.run]
            split <;> rfl

section Project

variable {d : Devices W} {out : ProjectCalls (Outside W)}

theorem project_setters {a : Attribute (Outside W)} (own : a ∈ projectAttributes out)
    {f : Project W → Json → Json → Bool → Bool × Outside W}
    (setter : a.m_setter = some (.device f)) :
    a.m_key = enabled ∨ a = m_save out ∨ a = m_imageMaxInterval ∨
      a.m_setter = some (rateSetter out out.originalReportRateSet) ∨
      a.m_setter = some (rateSetter out out.binningReportRateSet) := by
  revert a
  simp [projectAttributes, engineAttributes, reportAttributes, m_def, m_params, m_productType,
    m_algorithmType, m_brandId, enabled]

theorem project_enabled {a : Attribute (Outside W)} (own : a ∈ projectAttributes out)
    (key : a.m_key = enabled) : a.m_setter = some (enabledSetter out.toSwitch) := by
  have first : ∃ b ∈ projectAttributes out, b.m_key = enabled ∧
      b.m_setter = some (enabledSetter out.toSwitch) := ⟨_, List.mem_cons_self, rfl, rfl⟩
  obtain ⟨b, there, keyed, setter⟩ := first
  rw [eq_of_key (project_keys out) own there (key.trans keyed.symm), setter]

/-- Saving and setting report rates leave the objects and the board alone. -/
theorem ProjectLaws.leaves (laws : ProjectLaws d out) {a : Attribute (Outside W)}
    (own : a ∈ projectAttributes out) (other : a.m_key ≠ enabled) (s : Project W) (value : Json) :
    (a.setValue s value false).2.world.objects = s.world.objects ∧
      (a.setValue s value false).2.world.kickDelays = s.world.kickDelays := by
  rcases setValue_world a s value with same | ⟨f, setter, after⟩
  · rw [same]
    exact ⟨rfl, rfl⟩
  · rw [after]
    rcases project_setters own setter with switch | rfl | rfl | rate | rate
    · exact absurd switch other
    · cases setter
      unfold saveParams
      dsimp only
      split_ifs
      · exact ⟨rfl, rfl⟩
      · exact ⟨rfl, rfl⟩
      · exact laws.saveConfigFile ..
    · cases setter
      exact ⟨rfl, rfl⟩
    · obtain rfl := Setter.device.inj (Option.some.inj (setter.symm.trans rate))
      dsimp only
      split_ifs
      · exact laws.originalReportRateSet ..
      · exact ⟨rfl, rfl⟩
    · obtain rfl := Setter.device.inj (Option.some.inj (setter.symm.trans rate))
      dsimp only
      split_ifs
      · exact laws.binningReportRateSet ..
      · exact ⟨rfl, rfl⟩

/-- The project saves where `params` holds the path of a file, and where it has objects. -/
theorem project_saves (s : Project W) : saves (projectAttributes out) s = true ↔
    jsonType (s.m_value save) = .Bool ∧ (s.m_value (utf8 "params")).toString [] ≠ [] ∧
      out.m_objects s.world ≠ [] := by
  have own : m_save out ∈ (project out).attrList := by simp [project, projectAttributes]
  have saved : (saveParams out s).1 = true ↔
      (s.m_value (utf8 "params")).toString [] ≠ [] ∧ out.m_objects s.world ≠ [] := by
    unfold saveParams
    dsimp only
    split_ifs <;> simp_all
  have set : saves (projectAttributes out) s = ((m_save out).setValue s (.bool true) false).1 :=
    congrArg Prod.fst (EngineClass.setAttr_own own s (.bool true) false)
  rw [set]
  by_cases type : jsonType (s.m_value save) = .Bool
  · have same : jsonType (.bool true) = jsonType (s.m_value (m_save out).m_key) := type.symm
    have answer : ((m_save out).setValue s (.bool true) false).1 = (saveParams out s).1 := by
      rw [Attribute.setValue, if_neg (not_not.mpr same)]
      dsimp only [m_save, Setter.run]
      cases (saveParams out s).1 <;> rfl
    rw [answer, saved]
    simp [type]
  · have differs : jsonType (.bool true) ≠ jsonType (s.m_value (m_save out).m_key) :=
      fun same => type same.symm
    rw [Attribute.setValue, if_pos differs]
    simp [type]

/-- No value that is not trusted changes whether it would. -/
theorem ProjectLaws.steady (laws : ProjectLaws d out) (s : Project W) (key : Bytes) (value : Json) :
    saves (projectAttributes out) (setAttr (projectAttributes out) s key value false).2 =
      saves (projectAttributes out) s := by
  rcases setAttr_cases (projectAttributes out) s key value false with
    ⟨refused, -⟩ | ⟨a, own, -, set⟩
  · rw [refused]
  · rw [set]
    have objects := (laws.m_objects (a.setValue s value false).2.world s.world).ne
    have values : jsonType ((a.setValue s value false).2.m_value save) =
          jsonType (s.m_value save) ∧
        (a.setValue s value false).2.m_value (utf8 "params") = s.m_value (utf8 "params") := by
      rcases setValue_untrusted a s value with ⟨-, same⟩ | ⟨accepted, after, type⟩
      · rw [same]
        exact ⟨rfl, rfl⟩
      · rw [after]
        constructor
        · by_cases here : save = a.m_key
          · rw [here, Function.update_self, type]
          · rw [Function.update_of_ne here]
        · refine Function.update_of_ne (fun here => ?_) ..
          -- The path is not taken from a call that is not trusted.
          have path : m_params out ∈ projectAttributes out := by simp [projectAttributes]
          obtain rfl := eq_of_key (project_keys out) own path here.symm
          rw [Attribute.setValue] at accepted
          split at accepted
          · cases accepted
          · cases accepted
    rw [Bool.eq_iff_iff, project_saves, project_saves, values.1, values.2, objects]

end Project

/-- **The console of the repository.** -/
def projectConsole (d : Devices W) (out : ProjectCalls (Outside W)) (pcp : Bool)
    (laws : ProjectLaws d out) : Console W where
  toDevices := d
  attrList := projectAttributes out
  pcp := pcp
  own a own key := by
    rw [project_enabled own key, ← laws.onStarted, ← laws.onStopped]
  leaves a own other s value := laws.leaves own other s value
  steady s key value := laws.steady s key value
  outside s w := by
    rw [Bool.eq_iff_iff, project_saves, project_saves, (laws.m_objects w s.world).ne]

end IsgConsole.IopAgent.ConfigSet
