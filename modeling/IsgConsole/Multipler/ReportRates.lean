/-
# Multipler.ReportRates — the report rates of the project and of its result object

How many objects are reported with a picture lives twice: in `image_orginal_rate` and
`image_binning_rate` of the project, and in the rates `AbstractObject` counts by.  The setters of the
attributes hand a new value on.  The attributes are constructed with -1 and the result object with 1
and 3, so they agree only once the parameter file has given both.

* `gauge_setAttr` — what a call does to an attribute and its rate, for every attribute;
* `count_samples` — a counter reports exactly one in every `rate` calls;
* `reportRates_exact` — **when the two agree all along a run, and what then follows.**
-/
import IsgConsole.BaseLib.ObjectAttributes
import IsgConsole.Multipler.AbstractObject

namespace IsgConsole.Multipler.ReportRates

open IsgConsole.Theory IsgConsole.BaseLib IsgConsole.Theory.Json

set_option autoImplicit false

/-! ## Counting -/

/-- What `k` calls report at a rate. -/
def samples (rate : Int) : Nat → Int → List Bool
  | 0, _ => []
  | k + 1, index =>
      (AbstractObject.sample rate index).1 :: samples rate k (AbstractObject.sample rate index).2

/-- As long as the index stays below the rate nothing is reported. -/
theorem samples_quiet {rate index : Int} (k : Nat) (low : index + k < rate) :
    (samples rate k index).count true = 0 := by
  induction k generalizing index with
  | zero => rfl
  | succ k ih =>
      by_cases off : rate ≤ 0
      · rw [samples, AbstractObject.sample, if_pos off]
        exact ih (by omega)
      · have waits : ¬ rate ≤ index + 1 := by omega
        rw [samples, AbstractObject.sample, if_neg off, if_neg waits]
        exact ih (by omega)

/-- **Exactly one in every `rate` calls is reported**, wherever the index stands. -/
theorem count_samples {rate index : Int} (k : Nat) (counts : 0 ≤ index) (some' : 0 < k)
    (short : (k : Int) ≤ rate) (reaches : rate ≤ index + k) :
    (samples rate k index).count true = 1 := by
  induction k generalizing index with
  | zero => cases some'
  | succ k ih =>
      have on : ¬ rate ≤ 0 := by omega
      by_cases due : rate ≤ index + 1
      · rw [samples, AbstractObject.sample, if_neg on, if_pos due, List.count_cons_self,
          samples_quiet k (by omega)]
      · rw [samples, AbstractObject.sample, if_neg on, if_neg due]
        exact ih (by omega) (by omega) (by omega) (by omega)

theorem sample_off {rate : Int} (off : rate ≤ 0) (index : Int) :
    AbstractObject.sample rate index = (false, index) := if_pos off

theorem sample_nonneg (rate : Int) {index : Int} (counts : 0 ≤ index) :
    0 ≤ (AbstractObject.sample rate index).2 := by
  unfold AbstractObject.sample
  split
  · exact counts
  · split
    · exact Int.le_refl 0
    · exact Int.add_nonneg counts (by decide)

/-! ## The two rates -/

inductive Rate where
  | original
  | binning
  deriving DecidableEq

/-- A rate and where the counting stands. -/
structure Counter where
  rate : Int
  index : Int
  deriving DecidableEq

namespace Rate

def key : Rate → Bytes
  | .original => utf8 "image_orginal_rate"
  | .binning => utf8 "image_binning_rate"

def counter : Rate → AbstractObject → Counter
  | .original, o => { rate := o.m_originalReportRate, index := o.m_originalReportIndex }
  | .binning, o => { rate := o.m_binningReportRate, index := o.m_binningReportIndex }

/-- `originalReportRateSet` and `binningReportRateSet`. -/
def set (rate : Int) (o : AbstractObject) : Rate → AbstractObject
  | .original => { o with m_originalReportRate := rate }
  | .binning => { o with m_binningReportRate := rate }

/-- `orginalReport` and `binningReport`. -/
def report (o : AbstractObject) : Rate → Bool × AbstractObject
  | .original => o.orginalReport
  | .binning => o.binningReport

theorem counter_set_self (r : Rate) (rate : Int) (o : AbstractObject) :
    r.counter (r.set rate o) = { r.counter o with rate := rate } := by
  cases r <;> rfl

theorem counter_set_other {r other : Rate} (ne : other ≠ r) (rate : Int) (o : AbstractObject) :
    r.counter (other.set rate o) = r.counter o := by
  cases r <;> cases other <;> first | rfl | exact absurd rfl ne

theorem report_self (r : Rate) (o : AbstractObject) :
    (r.report o).1 = (AbstractObject.sample (r.counter o).rate (r.counter o).index).1 ∧
      r.counter (r.report o).2 =
        { r.counter o with
          index := (AbstractObject.sample (r.counter o).rate (r.counter o).index).2 } := by
  cases r <;> exact ⟨rfl, rfl⟩

theorem report_other {r other : Rate} (ne : other ≠ r) (o : AbstractObject) :
    r.counter (other.report o).2 = r.counter o := by
  cases r <;> cases other <;> first | rfl | exact absurd rfl ne

end Rate

/-! ## The project -/

/-- The result object, and everything else outside of the attributes. -/
structure World (V : Type) where
  objectResult : Option AbstractObject
  others : V

variable {V : Type}

/-- The project with the attributes of its class. -/
abbrev Project (V : Type) := EngineObject (World V)

/-- What the rest of the console does as attributes are set; none of it sets a report rate. -/
structure Elsewhere (V : Type) where
  qt : QtJson
  readAll : V → Bytes → Option Bytes
  onStarted : Project V → V
  onStopped : Project V → V
  loadDefNodes : Project V → JsonObject → Bool × V
  loadObjects : V → JsonObject → V
  init : Project V → Bool × V
  m_objects : V → List (Bytes × Json)
  saveConfigFile : V → Bytes → Json → V

/-- Outside of the result object. -/
def World.elsewhere (w : World V) (others : V) : World V := { w with others := others }

/-- The result object with a rate. -/
def World.setRate (r : Rate) (w : World V) (rate : Int) : World V :=
  { w with objectResult := w.objectResult.map (r.set rate) }

/-- The calls of the project: a definition comes with a new result object. -/
def Elsewhere.calls (e : Elsewhere V) : ProjectCalls (World V) where
  onStarted s := s.world.elsewhere (e.onStarted s)
  onStopped s := s.world.elsewhere (e.onStopped s)
  qt := e.qt
  readAll w := e.readAll w.others
  loadDefNodes s obj :=
    ((e.loadDefNodes s obj).1,
      { objectResult := some AbstractObject.start, others := (e.loadDefNodes s obj).2 })
  loadObjects w obj := w.elsewhere (e.loadObjects w.others obj)
  init s := ((e.init s).1, s.world.elsewhere (e.init s).2)
  m_objects w := e.m_objects w.others
  saveConfigFile w path json := w.elsewhere (e.saveConfigFile w.others path json)
  objectResult w := w.objectResult.isSome
  originalReportRateSet := World.setRate .original
  binningReportRateSet := World.setRate .binning

/-! ## Attribute and rate -/

/-- An attribute, and the counter it is for. -/
abbrev Gauge := Json × Option Counter

def gauge (r : Rate) (s : Project V) : Gauge :=
  (s.m_value r.key, s.world.objectResult.map r.counter)

/-- A rate is set: both change, or neither. -/
def turned (value : Json) (g : Gauge) : Gauge :=
  if jsonType value = jsonType g.1 then
    (value, g.2.map fun counter => { counter with rate := value.toInt })
  else g

theorem turned_typed {value : Json} {g : Gauge} (same : jsonType value = jsonType g.1) :
    turned value g = (value, g.2.map fun counter => { counter with rate := value.toInt }) :=
  if_pos same

theorem turned_other {value : Json} {g : Gauge} (apart : jsonType value ≠ jsonType g.1) :
    turned value g = g := if_neg apart

/-- A rate is loaded from an object. -/
def loaded (r : Rate) (json : Json) (g : Gauge) : Gauge :=
  match json.toObject.value r.key with
  | some value => turned value g
  | none => g

/-- **Attribute and rate agree.** -/
def Gauge.Agrees (g : Gauge) : Prop := ∃ counter, g.2 = some counter ∧ counter.rate = g.1.toInt

/-- The counting has begun at zero. -/
def Gauge.Counts (g : Gauge) : Prop := ∀ counter, g.2 = some counter → 0 ≤ counter.index

theorem turned_agrees {g : Gauge} (agrees : g.Agrees) (value : Json) : (turned value g).Agrees := by
  unfold turned
  split
  · obtain ⟨counter, there, -⟩ := agrees
    refine ⟨{ counter with rate := value.toInt }, ?_, rfl⟩
    rw [there]
    rfl
  · exact agrees

/-! ## Setting attributes -/

section Setting

variable (e : Elsewhere V)

/-- The attribute for a rate. -/
def rateAttribute (r : Rate) : Attribute (World V) :=
  { m_key := r.key, value := int (-1)
    m_setter := some (rateSetter e.calls (World.setRate r)) }

theorem rateAttribute_saved (r : Rate) : rateAttribute e r ∈ savedAttributes e.calls := by
  cases r
  · simp [savedAttributes, reportAttributes, rateAttribute, Rate.key, Elsewhere.calls]
  · simp [savedAttributes, reportAttributes, rateAttribute, Rate.key, Elsewhere.calls]

theorem rateAttribute_own (r : Rate) : rateAttribute e r ∈ projectAttributes e.calls :=
  (savedAttributes_own e.calls (rateAttribute_saved e r)).1

/-- The attributes of the project by their setters. -/
theorem setter_cases {a : Attribute (World V)} (own : a ∈ projectAttributes e.calls) :
    a.m_setter = none ∨ a.m_setter = some (enabledSetter e.calls.toSwitch) ∨
      a = m_def e.calls ∨ a = m_params e.calls ∨ a = m_save e.calls ∨ a = m_imageMaxInterval ∨
      ∃ r, a = rateAttribute e r := by
  simp only [projectAttributes, engineAttributes, reportAttributes, List.cons_append,
    List.nil_append, List.mem_cons, List.not_mem_nil, or_false] at own
  rcases own with rfl | rfl | rfl | rfl | rfl | rfl | rfl | rfl | rfl | rfl | rfl | rfl | rfl |
    rfl | rfl | rfl | rfl | rfl | rfl | rfl
  all_goals first
    | exact .inl rfl
    | exact .inr (.inl rfl)
    | exact .inr (.inr (.inl rfl))
    | exact .inr (.inr (.inr (.inl rfl)))
    | exact .inr (.inr (.inr (.inr (.inl rfl))))
    | exact .inr (.inr (.inr (.inr (.inr (.inl rfl)))))
    | exact .inr (.inr (.inr (.inr (.inr (.inr ⟨.original, rfl⟩)))))
    | exact .inr (.inr (.inr (.inr (.inr (.inr ⟨.binning, rfl⟩)))))

theorem saveParams_objectResult (s : Project V) :
    (saveParams e.calls s).2.objectResult = s.world.objectResult := by
  unfold saveParams
  dsimp only
  split
  · rfl
  · split <;> rfl

/-- A setter of another attribute leaves a rate alone. -/
theorem setter_keeps {r : Rate} {a : Attribute (World V)} (own : a ∈ projectAttributes e.calls)
    (other : a.m_key ≠ r.key)
    {f : Project V → Json → Json → Bool → Bool × World V} (setter : a.m_setter = some (.device f))
    (s : Project V) (newValue oldValue : Json) (trusted : Bool) :
    (f s newValue oldValue trusted).2.objectResult.map r.counter =
      s.world.objectResult.map r.counter := by
  rcases setter_cases e own with none' | enabled | rfl | rfl | rfl | rfl | ⟨r', rfl⟩
  · rw [none'] at setter
    cases setter
  · rw [enabled] at setter
    cases setter
    dsimp only
    split
    · rfl
    · split <;> rfl
  · cases setter
  · cases setter
  · cases setter
    exact congrArg (Option.map r.counter) (saveParams_objectResult e s)
  · cases setter
    rfl
  · cases setter
    have ne : r' ≠ r := fun same => other (congrArg Rate.key same)
    dsimp only
    split
    · rw [World.setRate, Option.map_map]
      exact congrArg (fun f => s.world.objectResult.map f)
        (funext fun o => Rate.counter_set_other ne newValue.toInt o)
    · rfl

/-- A value of the right type, for a setter that works outside of the project. -/
theorem setValue_device {a : Attribute (World V)}
    {f : Project V → Json → Json → Bool → Bool × World V} (setter : a.m_setter = some (.device f))
    {s : Project V} {value : Json} (same : jsonType value = jsonType (s.m_value a.m_key))
    (trusted : Bool) :
    (a.setValue s value trusted).2 =
      let answer := f s value (s.m_value a.m_key) trusted
      if answer.1 = true then { s with world := answer.2 }.put a.m_key value
      else { s with world := answer.2 } := by
  rw [Attribute.setValue, if_neg (not_not.mpr same), setter]
  exact apply_ite Prod.snd _ _ _

/-- Another attribute that loads no file leaves attribute and rate alone. -/
theorem gauge_setValue_other {r : Rate} {a : Attribute (World V)}
    (own : a ∈ projectAttributes e.calls) (plain : a.Plain) (other : a.m_key ≠ r.key)
    (s : Project V) (value : Json) (trusted : Bool) :
    gauge r (a.setValue s value trusted).2 = gauge r s := by
  by_cases mismatch : jsonType value ≠ jsonType (s.m_value a.m_key)
  · rw [Attribute.setValue, if_pos mismatch]
  · cases setter : a.m_setter with
    | none =>
        rw [Attribute.setValue, if_neg mismatch, setter]
        exact Prod.ext (EngineObject.put_other _ other.symm _) rfl
    | some setter' =>
        cases setter' with
        | file sets load => exact absurd setter (plain sets load)
        | device f =>
            have kept := setter_keeps e own other setter s value (s.m_value a.m_key) trusted
            rw [setValue_device setter (not_not.mp mismatch)]
            dsimp only
            split
            · exact Prod.ext (EngineObject.put_other _ other.symm _) kept
            · exact Prod.ext rfl kept

/-- The attribute of a rate hands its value on. -/
theorem gauge_setValue_self (r : Rate) (s : Project V) (value : Json) (trusted : Bool) :
    gauge r ((rateAttribute e r).setValue s value trusted).2 = turned value (gauge r s) := by
  by_cases same : jsonType value = jsonType (s.m_value (rateAttribute e r).m_key)
  · rw [Attribute.setValue, if_neg (not_not.mpr same),
      turned_typed (show jsonType value = jsonType (gauge r s).1 from same)]
    refine Prod.ext (EngineObject.put_self ..) ?_
    show (if s.world.objectResult.isSome then World.setRate r s.world value.toInt
      else s.world).objectResult.map r.counter = _
    cases there : s.world.objectResult with
    | none => simp [gauge, there]
    | some o => simp [gauge, there, World.setRate, Rate.counter_set_self]
  · rw [Attribute.setValue, if_pos same,
      turned_other (show jsonType value ≠ jsonType (gauge r s).1 from same)]

/-! ## Loading a file -/

/-- The attributes that are saved, as a class of their own. -/
def savedClass : EngineClass (World V) :=
  .ofPlain (savedAttributes e.calls)
    (distinct_of_keys ["brand_id", "image_save_path", "image_file_keep_days", "log_file_keep_days",
      "policystore_ip", "policystore_port", "image_max_interval", "image_infer_timeout_ms",
      "object_infer_timeout_ms", "box_queue_len", "box_min_elapsed", "image_orginal_rate",
      "image_binning_rate"] rfl (by decide))
    fun _ saved => Attribute.plain_iff.mp (savedAttributes_own e.calls saved).2.2

theorem setAttr_saved {a : Attribute (World V)} (saved : a ∈ savedAttributes e.calls)
    (s : Project V) (value : Json) (trusted : Bool) :
    setAttr (savedAttributes e.calls) s a.m_key value trusted = a.setValue s value trusted :=
  EngineClass.setAttr_own (show a ∈ (savedClass e).attrList from saved) s value trusted

/-- One attribute is loaded. -/
theorem loadAttr_saved {a : Attribute (World V)} (saved : a ∈ savedAttributes e.calls)
    (obj : JsonObject) (s : Project V) :
    loadAttr (savedAttributes e.calls) obj s a = s ∨
      ∃ value, loadAttr (savedAttributes e.calls) obj s a = (a.setValue s value true).2 := by
  unfold loadAttr
  split
  · cases obj.value a.m_key with
    | none => exact .inl rfl
    | some value => exact .inr ⟨value, congrArg Prod.snd (setAttr_saved e saved s value true)⟩
  · exact .inl rfl

theorem gauge_foldl_other {r : Rate} (obj : JsonObject) (attrs : List (Attribute (World V)))
    (saved : ∀ a ∈ attrs, a ∈ savedAttributes e.calls) (other : ∀ a ∈ attrs, a.m_key ≠ r.key)
    (s : Project V) :
    gauge r (attrs.foldl (loadAttr (savedAttributes e.calls) obj) s) = gauge r s := by
  refine List.foldlRecOn attrs (loadAttr (savedAttributes e.calls) obj)
    (motive := fun s' => gauge r s' = gauge r s) rfl fun s' same a here => ?_
  obtain ⟨own, -, plain⟩ := savedAttributes_own e.calls (saved a here)
  rcases loadAttr_saved e (saved a here) obj s' with kept | ⟨value, set⟩
  · rw [kept, same]
  · rw [set, gauge_setValue_other e own plain (other a here), same]

theorem gauge_loadAttr_self (r : Rate) (obj : JsonObject) (s : Project V) :
    gauge r (loadAttr (savedAttributes e.calls) obj s (rateAttribute e r)) =
      loaded r (.object obj) (gauge r s) := by
  have result : loadAttr (savedAttributes e.calls) obj s (rateAttribute e r) =
      match obj.value r.key with
      | some value => (setAttr (savedAttributes e.calls) s r.key value true).2
      | none => s := rfl
  rw [result, loaded, Json.toObject]
  cases obj.value r.key with
  | none => rfl
  | some value =>
      show gauge r (setAttr (savedAttributes e.calls) s r.key value true).2 = turned value (gauge r s)
      rw [← gauge_setValue_self e r s value true]
      exact congrArg (fun t => gauge r t.2) (setAttr_saved e (rateAttribute_saved e r) s value true)

/-- What loading the attributes does to a rate. -/
theorem gauge_loadFromJson (r : Rate) (s : Project V) (json : Json) :
    gauge r (loadFromJson (savedAttributes e.calls) s json) = loaded r json (gauge r s) := by
  cases json with
  | object obj =>
      obtain ⟨before, after, split⟩ := List.append_of_mem (rateAttribute_saved e r)
      have distinct := (savedClass e).distinct
      rw [show (savedClass e).attrList = savedAttributes e.calls from rfl, split, List.map_append,
        List.map_cons, List.nodup_append] at distinct
      obtain ⟨-, later, apart⟩ := distinct
      show gauge r ((savedAttributes e.calls).foldl (loadAttr (savedAttributes e.calls) obj) s) = _
      nth_rewrite 2 [split]
      rw [List.foldl_append, List.foldl_cons, gauge_foldl_other e obj after, gauge_loadAttr_self,
        gauge_foldl_other e obj before]
      · intro a here
        rw [split]
        exact List.mem_append_left _ here
      · intro a here
        exact apart _ (List.mem_map_of_mem here) _ List.mem_cons_self
      · intro a here
        rw [split]
        exact List.mem_append_right _ (List.mem_cons_of_mem _ here)
      · intro a here same
        exact (List.nodup_cons.mp later).1 (List.mem_map.mpr ⟨a, here, same⟩)
  | null => rfl
  | bool b => rfl
  | number d => rfl
  | string text => rfl
  | array elements => rfl

theorem gauge_openDef (r : Rate) (s : Project V) (path : Bytes) :
    gauge r (openDef e.calls s path).2 =
      if path = [] then gauge r s
      else match readObject e.calls s.world path with
        | none => gauge r s
        | some _ => ((gauge r s).1, some (r.counter AbstractObject.start)) := by
  unfold openDef
  split
  · rfl
  · cases readObject e.calls s.world path with
    | none => rfl
    | some obj =>
        have product : m_productType ∈ projectAttributes e.calls := by simp [projectAttributes]
        have algorithm : m_algorithmType ∈ projectAttributes e.calls := by
          simp [projectAttributes]
        have ne : utf8 "product" ≠ r.key := by
          cases r <;> exact utf8_injective.ne (by decide)
        have ne' : utf8 "algorithm_type" ≠ r.key := by
          cases r <;> exact utf8_injective.ne (by decide)
        have first := gauge_setValue_other e (r := r) product (Attribute.plain_iff.mpr rfl) ne s
          (.string ((obj.get (utf8 "product")).toString [])) false
        have second := gauge_setValue_other e (r := r) algorithm (Attribute.plain_iff.mpr rfl) ne'
          (m_productType.setValue s (.string ((obj.get (utf8 "product")).toString [])) false).2
          (int (obj.get (utf8 "algorithm_type")).toInt) false
        have kept := congrArg Prod.fst (second.trans first)
        exact Prod.ext kept rfl

theorem gauge_loadParams (r : Rate) (s : Project V) (path : Bytes) :
    gauge r (loadParams e.calls s path).2 =
      if path = [] then gauge r s
      else match readObject e.calls s.world path with
        | none => gauge r s
        | some obj => loaded r (obj.get s.name) (gauge r s) := by
  unfold loadParams
  split
  · rfl
  · cases readObject e.calls s.world path with
    | none => rfl
    | some obj => exact gauge_loadFromJson e r s (obj.get s.name)

/-! ## One call -/

/-- The file that a call of `setAttr` loads, for the attribute with this key. -/
def fileOf (file : Bytes) (s : Project V) (key : Bytes) (value : Json) (trusted : Bool) :
    Option JsonObject :=
  if trusted = true ∧ key = file ∧ jsonType value = jsonType (s.m_value file) ∧
      value.toString [] ≠ [] then
    readObject e.calls s.world (value.toString [])
  else none

/-- What a call does to a rate. -/
def callGauge (r : Rate) (s : Project V) (key : Bytes) (value : Json) (trusted : Bool) : Gauge :=
  if key = r.key then turned value (gauge r s)
  else
    match fileOf e (utf8 "def") s key value trusted with
    | some _ => ((gauge r s).1, some (r.counter AbstractObject.start))
    | none =>
        match fileOf e (utf8 "params") s key value trusted with
        | some obj => loaded r (obj.get s.name) (gauge r s)
        | none => gauge r s

theorem fileOf_holds {file key : Bytes} {s : Project V} {value : Json} {trusted : Bool}
    {obj : JsonObject} (opened : fileOf e file s key value trusted = some obj) :
    e.qt.Holds (.object obj) := by
  unfold fileOf at opened
  split at opened
  next => exact readObject_holds e.calls opened
  next => cases opened

theorem fileOf_other {file key : Bytes} (ne : key ≠ file) (s : Project V) (value : Json)
    (trusted : Bool) : fileOf e file s key value trusted = none :=
  if_neg fun this => ne this.2.1

/-- An attribute with the path of a file. -/
theorem gauge_setValue_file {r : Rate} {a : Attribute (World V)} {sets : List Bytes}
    {load : Project V → Bytes → Bool × Project V} (setter : a.m_setter = some (.file sets load))
    (other : a.m_key ≠ r.key) (s : Project V) (value : Json) (trusted : Bool) :
    gauge r (a.setValue s value trusted).2 =
      if trusted = true ∧ jsonType value = jsonType (s.m_value a.m_key) then
        gauge r (load s (value.toString [])).2
      else gauge r s := by
  by_cases same : jsonType value = jsonType (s.m_value a.m_key)
  · rw [Attribute.setValue, if_neg (not_not.mpr same), setter]
    cases trusted with
    | false => rfl
    | true =>
        rw [if_pos ⟨rfl, same⟩]
        simp only [Setter.run, if_true]
        cases (load s (value.toString [])).1 with
        | false => rfl
        | true => exact Prod.ext (EngineObject.put_other _ other.symm _) rfl
  · rw [Attribute.setValue, if_pos same, if_neg fun this => same this.2]

theorem notDef (r : Rate) : utf8 "def" ≠ r.key := by
  cases r <;> exact utf8_injective.ne (by decide)

theorem notParams (r : Rate) : utf8 "params" ≠ r.key := by
  cases r <;> exact utf8_injective.ne (by decide)

theorem params_ne_def : utf8 "params" ≠ utf8 "def" := utf8_injective.ne (by decide)

theorem callGauge_other {r : Rate} {key : Bytes} (other : key ≠ r.key) (noDef : key ≠ utf8 "def")
    (noParams : key ≠ utf8 "params") (s : Project V) (value : Json) (trusted : Bool) :
    callGauge e r s key value trusted = gauge r s := by
  rw [callGauge, if_neg other, fileOf_other e noDef, fileOf_other e noParams]

/-- A file is loaded where the call is trusted, of the right type and with a path. -/
theorem fileOf_self (file : Bytes) (s : Project V) (value : Json) (trusted : Bool) :
    fileOf e file s file value trusted =
      if trusted = true ∧ jsonType value = jsonType (s.m_value file) then
        if value.toString [] = [] then none else readObject e.calls s.world (value.toString [])
      else none := by
  unfold fileOf
  by_cases typed : trusted = true ∧ jsonType value = jsonType (s.m_value file)
  · by_cases given : value.toString [] = []
    · simp [given]
    · simp [typed, given]
  · rw [if_neg typed, if_neg fun this => typed ⟨this.1, this.2.2.1⟩]

theorem gauge_setDef (r : Rate) (s : Project V) (value : Json) (trusted : Bool) :
    gauge r ((m_def e.calls).setValue s value trusted).2 =
      callGauge e r s (utf8 "def") value trusted := by
  have set := gauge_setValue_file (r := r) (a := m_def e.calls) rfl (notDef r) s value trusted
  rw [set, callGauge, if_neg (notDef r), fileOf_other e params_ne_def.symm, fileOf_self,
    gauge_openDef, show (m_def e.calls).m_key = utf8 "def" from rfl]
  split
  · split
    · rfl
    · cases readObject e.calls s.world (value.toString []) <;> rfl
  · rfl

theorem gauge_setParams (r : Rate) (s : Project V) (value : Json) (trusted : Bool) :
    gauge r ((m_params e.calls).setValue s value trusted).2 =
      callGauge e r s (utf8 "params") value trusted := by
  have set := gauge_setValue_file (r := r) (a := m_params e.calls) rfl (notParams r) s value trusted
  rw [set, callGauge, if_neg (notParams r), fileOf_other e params_ne_def, fileOf_self,
    gauge_loadParams, show (m_params e.calls).m_key = utf8 "params" from rfl]
  split
  · split
    · rfl
    · cases readObject e.calls s.world (value.toString []) <;> rfl
  · rfl

/-- **What a call does to an attribute and its rate.** -/
theorem gauge_setAttr (r : Rate) (s : Project V) (key : Bytes) (value : Json) (trusted : Bool) :
    gauge r (setAttr (projectAttributes e.calls) s key value trusted).2 =
      callGauge e r s key value trusted := by
  have ownDef : m_def e.calls ∈ projectAttributes e.calls := by simp [projectAttributes]
  have ownParams : m_params e.calls ∈ projectAttributes e.calls := by simp [projectAttributes]
  rcases setAttr_cases (projectAttributes e.calls) s key value trusted with
    ⟨refused, unknown⟩ | ⟨a, own, rfl, set⟩
  · rw [refused]
    exact (callGauge_other e (unknown _ (rateAttribute_own e r)).symm (unknown _ ownDef).symm
      (unknown _ ownParams).symm s value trusted).symm
  · have is : ∀ {b}, b ∈ projectAttributes e.calls → a.m_key = b.m_key → a = b :=
      fun other same => eq_of_key (project_keys e.calls) own other same
    rw [set]
    rcases project_plain e.calls own with plain | rfl | rfl
    · by_cases self : a.m_key = r.key
      · obtain rfl := is (rateAttribute_own e r) self
        rw [gauge_setValue_self, callGauge, if_pos self]
      · have notFile : ∀ {b}, b ∈ projectAttributes e.calls → ¬ b.isPlain = true →
            a.m_key ≠ b.m_key := by
          intro b other loads same
          obtain rfl := is other same
          exact loads plain
        rw [gauge_setValue_other e own (Attribute.plain_iff.mpr plain) self]
        exact (callGauge_other e self (notFile ownDef (by simp [Attribute.isPlain, m_def]))
          (notFile ownParams (by simp [Attribute.isPlain, m_params])) s value trusted).symm
    · exact gauge_setDef e r s value trusted
    · exact gauge_setParams e r s value trusted

end Setting

/-! ## Running -/

/-- A call of `setAttr`, with what is elsewhere at that moment, or an object that asks whether it is
to be reported. -/
inductive Event (V : Type) where
  | setAttr (others : V) (key : Bytes) (value : Json) (trusted : Bool)
  | report (r : Rate)

inductive Output where
  | accepted (accepted : Bool)
  | report (r : Rate) (reported : Bool)
  deriving DecidableEq

/-- The moment of a call. -/
def seen (s : Project V) (others : V) : Project V := { s with world := s.world.elsewhere others }

def step (e : Elsewhere V) (s : Project V) : Event V → Project V × List Output
  | .setAttr others key value trusted =>
      let (accepted, s) := setAttr (projectAttributes e.calls) (seen s others) key value trusted
      (s, [.accepted accepted])
  | .report r =>
      match s.world.objectResult with
      | none => (s, [])
      | some o =>
          let (reported, o) := r.report o
          ({ s with world := { s.world with objectResult := some o } }, [.report r reported])

/-- The answers to the objects that asked for a rate. -/
def reportsIn (r : Rate) (outputs : List Output) : List Bool :=
  outputs.filterMap fun
    | .report r' reported => if r' = r then some reported else none
    | .accepted _ => none

theorem reportsIn_single (r asked : Rate) (reported : Bool) :
    reportsIn r [.report asked reported] = if asked = r then [reported] else [] := by
  unfold reportsIn
  split
  next same => simp [same]
  next ne => simp [ne]

/-- The call opens a definition. -/
def Opens (e : Elsewhere V) (s : Project V) : Event V → Prop
  | .setAttr others key value trusted =>
      fileOf e (utf8 "def") (seen s others) key value trusted ≠ none
  | .report _ => False

/-- A definition is opened only while the attributes are those of a new result object. -/
def Harmless (e : Elsewhere V) (s : Project V) (event : Event V) : Prop :=
  Opens e s event → ∀ r : Rate, (s.m_value r.key).toInt = (r.counter AbstractObject.start).rate

section Running

variable {e : Elsewhere V} {s : Project V}

theorem gauge_seen (r : Rate) (s : Project V) (others : V) : gauge r (seen s others) = gauge r s :=
  rfl

theorem gauge_set (r : Rate) (others : V) (key : Bytes) (value : Json) (trusted : Bool) :
    gauge r (step e s (.setAttr others key value trusted)).1 =
      callGauge e r (seen s others) key value trusted :=
  gauge_setAttr e r (seen s others) key value trusted

/-- A call that opens no definition sets a rate, or leaves it. -/
theorem callGauge_cases (r : Rate) (key : Bytes) (value : Json) (trusted : Bool) :
    (∃ value', (e.qt.Holds value → e.qt.Holds value') ∧
        callGauge e r s key value trusted = turned value' (gauge r s)) ∨
      callGauge e r s key value trusted = gauge r s ∨
      fileOf e (utf8 "def") s key value trusted ≠ none ∧
        callGauge e r s key value trusted =
          ((gauge r s).1, some (r.counter AbstractObject.start)) := by
  unfold callGauge
  split
  · exact .inl ⟨value, id, rfl⟩
  · split
    next obj opened => exact .inr (.inr ⟨by simp [opened], rfl⟩)
    next =>
        split
        next obj opened =>
            unfold loaded
            split
            next value' found =>
                have holds := isHeld_get e.qt.round (fileOf_holds e opened) s.name
                exact .inl ⟨value', fun _ => isHeld_value e.qt.round holds found, rfl⟩
            next => exact .inr (.inl rfl)
        next => exact .inr (.inl rfl)

/-- A call that opens a definition. -/
theorem callGauge_opens {key : Bytes} {value : Json} {trusted : Bool}
    (opens : fileOf e (utf8 "def") s key value trusted ≠ none) (r : Rate) :
    callGauge e r s key value trusted = ((gauge r s).1, some (r.counter AbstractObject.start)) := by
  have isDef : key = utf8 "def" := by
    by_contra ne
    exact opens (fileOf_other e ne s value trusted)
  obtain ⟨obj, opened⟩ := Option.ne_none_iff_exists'.mp opens
  rw [callGauge, if_neg (isDef ▸ notDef r), opened]

theorem step_report (asked : Rate) {o : AbstractObject} (there : s.world.objectResult = some o) :
    step e s (.report asked) =
      ({ s with world := { s.world with objectResult := some (asked.report o).2 } },
        [.report asked (asked.report o).1]) := by
  show (match s.world.objectResult with | none => _ | some o => _) = _
  rw [there]

theorem step_report_none (asked : Rate) (there : s.world.objectResult = none) :
    step e s (.report asked) = (s, []) := by
  show (match s.world.objectResult with | none => _ | some o => _) = _
  rw [there]

/-- What an object that asks does to a counter. -/
theorem gauge_report (r asked : Rate) {o : AbstractObject} (there : s.world.objectResult = some o) :
    gauge r (step e s (.report asked)).1 =
      if asked = r then
        ((gauge r s).1, some { r.counter o with
          index := (AbstractObject.sample (r.counter o).rate (r.counter o).index).2 })
      else gauge r s := by
  rw [step_report asked there]
  by_cases same : asked = r
  · subst same
    rw [if_pos rfl]
    exact Prod.ext rfl (congrArg some (Rate.report_self asked o).2)
  · rw [if_neg same]
    refine Prod.ext rfl ?_
    show some (r.counter (asked.report o).2) = s.world.objectResult.map r.counter
    rw [Rate.report_other same, there]
    rfl

/-- **When an event keeps attributes and rates in agreement.** -/
theorem agrees_step (agrees : ∀ r, (gauge r s).Agrees) (event : Event V) :
    (∀ r, (gauge r (step e s event).1).Agrees) ↔ Harmless e s event := by
  cases event with
  | setAttr others key value trusted =>
      have moment : ∀ r, (gauge r (seen s others)).Agrees := agrees
      by_cases opens : fileOf e (utf8 "def") (seen s others) key value trusted ≠ none
      · constructor
        · intro after _ r
          obtain ⟨counter, there, same⟩ := after r
          rw [gauge_set, callGauge_opens opens] at there same
          obtain rfl := Option.some.inj there
          exact same.symm
        · intro harmless r
          rw [gauge_set, callGauge_opens opens]
          exact ⟨_, rfl, (harmless opens r).symm⟩
      · refine iff_of_true (fun r => ?_) (fun opened => absurd opened opens)
        rw [gauge_set]
        rcases callGauge_cases (e := e) (s := seen s others) r key value trusted with
          ⟨value', -, set⟩ | same | ⟨opened, -⟩
        · rw [set]
          exact turned_agrees (moment r) value'
        · rw [same]
          exact moment r
        · exact absurd opened opens
  | report asked =>
      refine iff_of_true (fun r => ?_) (fun opened => opened.elim)
      obtain ⟨counter, there, same⟩ := agrees r
      cases object : s.world.objectResult with
      | none =>
          rw [gauge, object] at there
          cases there
      | some o =>
          rw [gauge_report r asked object]
          split
          · refine ⟨_, rfl, ?_⟩
            rw [gauge, object] at there
            obtain rfl := Option.some.inj there
            exact same
          · exact agrees r

end Running

/-! ## A run -/

section Runs

variable {e : Elsewhere V} {s : Project V}

theorem opens_keeps_index {r : Rate} {others : V} {key : Bytes} {value : Json} {trusted : Bool}
    (closed : ¬ Opens e s (.setAttr others key value trusted)) :
    (gauge r (step e s (.setAttr others key value trusted)).1).2.map Counter.index =
      (gauge r s).2.map Counter.index := by
  rw [gauge_set]
  rcases callGauge_cases (e := e) (s := seen s others) r key value trusted with
    ⟨value', -, set⟩ | same | ⟨opened, -⟩
  · rw [set, turned]
    split
    · rw [Option.map_map]
      rfl
    · rfl
  · rw [same]
    rfl
  · exact absurd opened closed

/-- One event while the attribute stays at `n`. -/
theorem reports_step {r : Rate} {n index : Int} {event : Event V}
    (counter : (gauge r s).2 = some { rate := n, index := index }) (closed : ¬ Opens e s event)
    (agrees : (gauge r (step e s event).1).Agrees)
    (constant : ((step e s event).1.m_value r.key).toInt = n) :
    ∃ k index', (gauge r (step e s event).1).2 = some { rate := n, index := index' } ∧
      ∀ l, reportsIn r (step e s event).2 ++ samples n l index' = samples n (k + l) index := by
  obtain ⟨after, there, same⟩ := agrees
  have rate : after.rate = n := same.trans constant
  cases event with
  | setAttr others key value trusted =>
      have kept := opens_keeps_index (r := r) closed
      rw [there, counter] at kept
      have index' : after.index = index := Option.some.inj kept
      refine ⟨0, index, ?_, ?_⟩
      · rw [there, ← rate, ← index']
      · intro l
        rw [Nat.zero_add]
        rfl
  | report asked =>
      cases object : s.world.objectResult with
      | none =>
          rw [gauge, object] at counter
          cases counter
      | some o =>
          rw [gauge, object] at counter
          have stands : r.counter o = { rate := n, index := index } := Option.some.inj counter
          rw [gauge_report r asked object, step_report asked object, reportsIn_single]
          by_cases own : asked = r
          · subst own
            refine ⟨1, (AbstractObject.sample n index).2, ?_, ?_⟩
            · rw [if_pos rfl, stands]
            · intro l
              rw [if_pos rfl, (Rate.report_self asked o).1, stands, Nat.add_comm]
              rfl
          · refine ⟨0, index, ?_, ?_⟩
            · rw [if_neg own, gauge, object]
              exact counter
            · intro l
              rw [if_neg own, Nat.zero_add]
              rfl

/-- What is reported while an attribute stays as it is. -/
theorem reports_run {r : Rate} {n : Int} (events : List (Event V)) {index : Int}
    (counter : (gauge r s).2 = some { rate := n, index := index })
    (closed : Machine.Always
      (fun first event => ¬ Opens e (Machine.final (step e) s first) event) events)
    (agrees : ∀ first, first <+: events → (gauge r (Machine.final (step e) s first)).Agrees)
    (constant : ∀ first, first <+: events →
      ((Machine.final (step e) s first).m_value r.key).toInt = n) :
    ∃ k, reportsIn r (Machine.outputs (step e) s events) = samples n k index := by
  induction events generalizing s index with
  | nil => exact ⟨0, rfl⟩
  | cons event events ih =>
      rw [Machine.always_cons] at closed
      have one : [event] <+: event :: events := ⟨events, rfl⟩
      obtain ⟨k, index', after, reports⟩ := reports_step counter closed.1 (agrees _ one)
        (constant _ one)
      obtain ⟨l, rest⟩ := ih after closed.2
        (fun first here => agrees _ (List.cons_prefix_cons.mpr ⟨rfl, here⟩))
        (fun first here => constant _ (List.cons_prefix_cons.mpr ⟨rfl, here⟩))
      refine ⟨k + l, ?_⟩
      rw [← reports l, ← rest]
      exact List.filterMap_append

/-- The counting of every rate has begun at zero. -/
theorem counts_step (counts : ∀ r, (gauge r s).Counts) (event : Event V) (r : Rate) :
    (gauge r (step e s event).1).Counts := by
  cases event with
  | setAttr others key value trusted =>
      rw [gauge_set]
      rcases callGauge_cases (e := e) (s := seen s others) r key value trusted with
        ⟨value', -, set⟩ | same | ⟨-, set⟩
      · rw [set, turned]
        split
        · intro counter there
          obtain ⟨before, here, rfl⟩ := Option.map_eq_some_iff.mp there
          exact counts r before here
        · exact counts r
      · rw [same]
        exact counts r
      · rw [set]
        rintro counter ⟨⟩
        cases r <;> exact Int.le_refl 0
  | report asked =>
      cases object : s.world.objectResult with
      | none =>
          rw [step_report_none asked object]
          exact counts r
      | some o =>
          rw [gauge_report r asked object]
          split
          · rintro counter ⟨⟩
            exact sample_nonneg _ (counts r (r.counter o) (by rw [gauge, object]; rfl))
          · exact counts r

end Runs

/-! ## Launching -/

def definitionPath (dir : Bytes) : Bytes := dir ++ utf8 "/product_def.json"
def paramsPath (dir : Bytes) : Bytes := dir ++ utf8 "/product_params.json"

section Launching

variable (e : Elsewhere V)

/-- `setAttr("def", ..)` in `main`. -/
def opened (v : V) (dir : Bytes) : Bool × Project V :=
  setAttr (projectAttributes e.calls)
    ((project e.calls).constructed { objectResult := none, others := v }) (utf8 "def")
    (.string (definitionPath dir)) true

/-- The definition and the parameters are loaded in `main`, as what is elsewhere is `v₁` and then
`v₂`. -/
def launch (v₁ v₂ : V) (dir : Bytes) : Option (Project V) :=
  let (accepted, s) := opened e v₁ dir
  if accepted then
    let (accepted, s) := setAttr (projectAttributes e.calls) (seen s v₂) (utf8 "params")
      (.string (paramsPath dir)) true
    if accepted then some s else none
  else none

/-- The object in the parameter file. -/
def paramsFile (v : V) (dir : Bytes) : Option JsonObject :=
  readObject e.calls { objectResult := none, others := v } (paramsPath dir)

/-- The parameter file gives both rates. -/
def Given (v : V) (dir : Bytes) : Prop :=
  ∃ obj, paramsFile e v dir = some obj ∧
    ∀ r : Rate, jsonType ((obj.get (utf8 "global")).toObject.get r.key) = .Double

theorem path_ne (dir : Bytes) {name : Bytes} (named : name ≠ []) : dir ++ name ≠ [] := by
  simp [named]

/-- `openDef` accepts only where it opens the file. -/
theorem openDef_accepted {s : Project V} {path : Bytes} (given : path ≠ [])
    (accepted : (openDef e.calls s path).1 = true) :
    ∃ obj, readObject e.calls s.world path = some obj := by
  rw [openDef, if_neg given] at accepted
  cases read : readObject e.calls s.world path with
  | none =>
      rw [read] at accepted
      cases accepted
  | some obj => exact ⟨obj, rfl⟩

theorem loadParams_accepted {s : Project V} {path : Bytes} (given : path ≠ [])
    (accepted : (loadParams e.calls s path).1 = true) :
    ∃ obj, readObject e.calls s.world path = some obj := by
  rw [loadParams, if_neg given] at accepted
  cases read : readObject e.calls s.world path with
  | none =>
      rw [read] at accepted
      cases accepted
  | some obj => exact ⟨obj, rfl⟩

theorem own_def : m_def e.calls ∈ (project e.calls).attrList := by
  simp [project, projectAttributes]

theorem own_params : m_params e.calls ∈ (project e.calls).attrList := by
  simp [project, projectAttributes]

/-- The project after its definition: a new result object, and attributes as constructed. -/
structure Opened (s : Project V) : Prop where
  gauge : ∀ r : Rate, gauge r s = (int (-1), some (r.counter AbstractObject.start))
  name : s.name = utf8 "global"
  params : s.m_value (utf8 "params") = .string []

theorem opened_spec {v : V} {dir : Bytes} (accepted : (opened e v dir).1 = true) :
    Opened (opened e v dir).2 := by
  have constructed : ∀ {a}, a ∈ (project e.calls).attrList →
      ((project e.calls).constructed { objectResult := none, others := v }).m_value a.m_key =
        a.value := fun own => EngineClass.constructed_value own _
  have result : opened e v dir = (m_def e.calls).setValue
      ((project e.calls).constructed { objectResult := none, others := v })
      (.string (definitionPath dir)) true :=
    EngineClass.setAttr_own (own_def e) _ _ _
  have type : jsonType (.string (definitionPath dir)) =
      jsonType (((project e.calls).constructed { objectResult := none, others := v }).m_value
        (m_def e.calls).m_key) :=
    (congrArg jsonType (constructed (own_def e))).symm
  obtain ⟨answer, others⟩ := setValue_trusted (a := m_def e.calls) rfl type
  have given : definitionPath dir ≠ [] := path_ne dir (by decide)
  rw [result] at accepted ⊢
  rw [answer] at accepted
  obtain ⟨obj, read⟩ := openDef_accepted e given accepted
  have kept : ∀ key ∉ [utf8 "product", utf8 "algorithm_type"], key ≠ utf8 "def" →
      ((m_def e.calls).setValue
        ((project e.calls).constructed { objectResult := none, others := v })
        (.string (definitionPath dir)) true).2.m_value key =
      ((project e.calls).constructed { objectResult := none, others := v }).m_value key := by
    intro key other ne
    rw [others key ne]
    exact (openDef_writes e.calls _ (definitionPath dir)).others other
  have apart : ∀ name : String, name ≠ "product" → name ≠ "algorithm_type" →
      utf8 name ∉ [utf8 "product", utf8 "algorithm_type"] := by
    intro name one two
    simp [utf8_injective.eq_iff, one, two]
  constructor
  · intro r
    have value := constructed (rateAttribute_own e r)
    rw [gauge_setDef, callGauge, if_neg (notDef r), fileOf_self, if_pos ⟨rfl, type⟩,
      if_neg (show ¬ (Json.string (definitionPath dir)).toString [] = [] from given),
      show readObject e.calls _ ((Json.string (definitionPath dir)).toString []) = some obj from read]
    exact Prod.ext value rfl
  · have value := constructed (a :=
      { m_key := utf8 "name", value := .string (utf8 "global"), m_save := false, m_setter := none })
      (by simp [project, projectAttributes, engineAttributes])
    exact congrArg (Json.toString [])
      ((kept (utf8 "name") (apart "name" (by decide) (by decide))
        (utf8_injective.ne (by decide))).trans value)
  · exact (kept (utf8 "params") (apart "params" (by decide) (by decide))
      (utf8_injective.ne (by decide))).trans (constructed (own_params e))

/-- **What a launch leaves of the rates**: a new result object, and what the parameter file gives. -/
theorem launch_spec {v₁ v₂ : V} {dir : Bytes} {s : Project V}
    (launched : launch e v₁ v₂ dir = some s) :
    ∃ obj, paramsFile e v₂ dir = some obj ∧ ∀ r : Rate,
      gauge r s = loaded r (obj.get (utf8 "global"))
        (int (-1), some (r.counter AbstractObject.start)) := by
  unfold launch at launched
  dsimp only at launched
  split at launched
  next accepted =>
      have first := opened_spec e accepted
      split at launched
      next ready =>
          obtain rfl := Option.some.inj launched
          have type : jsonType (.string (paramsPath dir)) =
              jsonType ((seen (opened e v₁ dir).2 v₂).m_value (m_params e.calls).m_key) :=
            (congrArg jsonType first.params).symm
          have result : setAttr (projectAttributes e.calls) (seen (opened e v₁ dir).2 v₂)
              (utf8 "params") (.string (paramsPath dir)) true =
              (m_params e.calls).setValue (seen (opened e v₁ dir).2 v₂)
                (.string (paramsPath dir)) true :=
            EngineClass.setAttr_own (own_params e) _ _ _
          have given : paramsPath dir ≠ [] := path_ne dir (by decide)
          obtain ⟨answer, -⟩ := setValue_trusted (a := m_params e.calls) rfl type
          rw [result, answer] at ready
          obtain ⟨obj, read⟩ := loadParams_accepted e given ready
          refine ⟨obj, read, fun r => ?_⟩
          rw [gauge_setAttr, callGauge, if_neg (notParams r), fileOf_other e params_ne_def,
            fileOf_self, if_pos ⟨rfl, type⟩,
            if_neg (show ¬ (Json.string (paramsPath dir)).toString [] = [] from given),
            show readObject e.calls _ ((Json.string (paramsPath dir)).toString []) = some obj
              from read, gauge_seen, first.gauge r]
          exact congrArg (fun name => loaded r (obj.get name) _) first.name
      next => cases launched
  next => cases launched

end Launching

/-- A file gives a rate exactly when it is a number, and nothing else makes -1 the rate of a new
result object. -/
theorem loaded_start_agrees (r : Rate) (json : Json) :
    (loaded r json (int (-1), some (r.counter AbstractObject.start))).Agrees ↔
      jsonType (json.toObject.get r.key) = .Double := by
  have apart : ¬ Gauge.Agrees (int (-1), some (r.counter AbstractObject.start)) := by
    rintro ⟨counter, ⟨⟩, same⟩
    cases r <;> exact absurd same (by decide)
  unfold loaded JsonObject.get
  cases json.toObject.value r.key with
  | none => exact iff_of_false apart (by decide)
  | some value =>
      show (turned value (int (-1), some (r.counter AbstractObject.start))).Agrees ↔
        jsonType value = .Double
      by_cases number : jsonType value = .Double
      · rw [turned_typed number]
        exact iff_of_true ⟨_, rfl, rfl⟩ number
      · rw [turned_other number]
        exact iff_of_false apart number

/-- Right after the launch. -/
theorem agrees_launched {e : Elsewhere V} {v₁ v₂ : V} {dir : Bytes} {s : Project V}
    (launched : launch e v₁ v₂ dir = some s) :
    (∀ r, (gauge r s).Agrees) ↔ Given e v₂ dir := by
  obtain ⟨obj, read, rates⟩ := launch_spec e launched
  constructor
  · intro agrees
    refine ⟨obj, read, fun r => ?_⟩
    rw [← loaded_start_agrees, ← rates r]
    exact agrees r
  · rintro ⟨other, read', numbers⟩ r
    rw [read] at read'
    obtain rfl := Option.some.inj read'
    rw [rates r, loaded_start_agrees]
    exact numbers r

theorem counts_launched {e : Elsewhere V} {v₁ v₂ : V} {dir : Bytes} {s : Project V}
    (launched : launch e v₁ v₂ dir = some s) (r : Rate) : (gauge r s).Counts := by
  obtain ⟨obj, -, rates⟩ := launch_spec e launched
  have start : Gauge.Counts (int (-1), some (r.counter AbstractObject.start)) := by
    rintro counter ⟨⟩
    cases r <;> exact Int.le_refl 0
  rw [rates r, loaded]
  split
  · unfold turned
    split
    · rintro counter ⟨⟩
      exact start (r.counter AbstractObject.start) rfl
    · exact start
  · exact start

/-! ## Saving and launching again -/

/-- What `saveParams` hands over to be written. -/
def savedFile (e : Elsewhere V) (s : Project V) : Json :=
  .objectOf ((s.name,
    saveToJson (savedAttributes e.calls) s ((s.m_value (utf8 "product")).toString [])) ::
      e.m_objects s.world.others)

theorem saveParams_savedFile (e : Elsewhere V) (s : Project V)
    (accepted : (saveParams e.calls s).1 = true) :
    (saveParams e.calls s).2.others = e.saveConfigFile s.world.others
      ((s.m_value (utf8 "params")).toString []) (savedFile e s) := by
  unfold saveParams at accepted ⊢
  dsimp only at accepted ⊢
  split at accepted
  next => cases accepted
  next given =>
      split at accepted
      next => cases accepted
      next objects =>
          rw [if_neg given, if_neg objects]
          rfl

/-- The project has its first name, and no object has that name too. -/
def Named (e : Elsewhere V) (s : Project V) : Prop :=
  s.name = utf8 "global" ∧ ∀ o ∈ e.m_objects s.world.others, o.1 ≠ utf8 "global"

/-- What is saved is that file, and a console that is launched with it has the attributes and the
rates of the one that saved it. -/
def Restarts (e : Elsewhere V) (dir : Bytes) (s : Project V) : Prop :=
  ((saveParams e.calls s).1 = true →
    (saveParams e.calls s).2.others = e.saveConfigFile s.world.others
      ((s.m_value (utf8 "params")).toString []) (savedFile e s)) ∧
  ∀ v₁ v₂ again, launch e v₁ v₂ dir = some again →
    e.readAll v₂ (paramsPath dir) = some (e.qt.toJson .Indented (savedFile e s)) →
      ∀ r, (gauge r again).1 = (gauge r s).1 ∧
        (gauge r again).2.map Counter.rate = (gauge r s).2.map Counter.rate

/-- The members of the project in the saved file. -/
theorem get_savedFile {e : Elsewhere V} {s : Project V} (named : Named e s) (r : Rate) :
    (((savedFile e s).toObject.get (utf8 "global")).toObject).value r.key =
      some (s.m_value r.key) := by
  obtain ⟨name, others⟩ := named
  have none' : ∀ members : List (Bytes × Json), (∀ o ∈ members, o.1 ≠ utf8 "global") →
      ∀ own, JsonObject.value (utf8 "global") ((utf8 "global", own) :: members) = some own := by
    intro members apart own
    induction members using List.reverseRecOn with
    | nil => simp [JsonObject.value]
    | append_singleton members m ih =>
        rw [← List.cons_append, ← List.concat_eq_append, JsonObject.value_concat,
          if_neg (apart m (List.mem_append_right _ List.mem_cons_self))]
        exact ih fun o here => apart o (List.mem_append_left _ here)
  have global : (savedFile e s).toObject.get (utf8 "global") = saveToJson (savedAttributes e.calls) s
      ((s.m_value (utf8 "product")).toString []) := by
    show (JsonObject.value (utf8 "global") (JsonObject.ofInserts _)).getD .null = _
    rw [JsonObject.value_ofInserts, name, none' _ others, Option.getD_some]
  rw [global]
  have own : rateAttribute e r ∈ (savedClass e).attrList := rateAttribute_saved e r
  have saved := EngineClass.value_saved s ((s.m_value (utf8 "product")).toString []) own
  rw [if_pos (by simp [Attribute.savedFor, rateAttribute])] at saved
  exact saved

theorem restarts_of_agrees {e : Elsewhere V} {s : Project V} (dir : Bytes) (named : Named e s)
    (agrees : ∀ r, (gauge r s).Agrees) (numbers : ∀ r, jsonType (gauge r s).1 = .Double)
    (kept : ∀ r, e.qt.Holds (gauge r s).1) : Restarts e dir s := by
  refine ⟨saveParams_savedFile e s, fun v₁ v₂ again launched holds r => ?_⟩
  obtain ⟨obj, read, rates⟩ := launch_spec e launched
  have members : e.qt.object (e.qt.toJson .Indented (savedFile e s)) =
      (held e.qt.round (savedFile e s)).toObject := e.qt.object_toJson .Indented _
  have same : obj = (held e.qt.round (savedFile e s)).toObject := by
    have text : e.calls.readAll { objectResult := none, others := v₂ } (paramsPath dir) =
        some (e.qt.toJson .Indented (savedFile e s)) := holds
    rw [paramsFile, readObject, text] at read
    dsimp only at read
    rw [show e.calls.qt = e.qt from rfl, members] at read
    split at read
    next => cases read
    next => exact (Option.some.inj read).symm
  have value : (obj.get (utf8 "global")).toObject.value r.key = some (s.m_value r.key) := by
    have rate : held e.qt.round (s.m_value r.key) = s.m_value r.key := held_of_isHeld _ (kept r)
    rw [same, get_held, value_held, get_savedFile named r, Option.map_some, rate]
  obtain ⟨counter, there, rate⟩ := agrees r
  rw [rates r, loaded, value, there]
  show (turned (s.m_value r.key) _).1 = _ ∧ (turned (s.m_value r.key) _).2.map _ = _
  rw [turned_typed (numbers r)]
  exact ⟨rfl, congrArg some rate.symm⟩

/-! ## Attributes and rates -/

/-- A rate that is not positive reports nothing, and a constant one reports exactly one object in
every so many. -/
def Sampled (e : Elsewhere V) (r : Rate) (s : Project V) (events : List (Event V)) : Prop :=
  ∀ n, (∀ first, first <+: events →
      ((Machine.final (step e) s first).m_value r.key).toInt = n) →
    let reports := reportsIn r (Machine.outputs (step e) s events)
    (n ≤ 0 → true ∉ reports) ∧ (0 < n → reports.length = n.toNat → reports.count true = 1)

theorem length_samples (rate : Int) (k : Nat) (index : Int) :
    (samples rate k index).length = k := by
  induction k generalizing index with
  | zero => rfl
  | succ k ih => rw [samples, List.length_cons, ih]

theorem samples_off {rate : Int} (off : rate ≤ 0) (k : Nat) (index : Int) :
    true ∉ samples rate k index := by
  induction k generalizing index with
  | zero => exact List.not_mem_nil
  | succ k ih =>
      rw [samples, sample_off off]
      simpa using ih index

theorem sampled_of_agrees {e : Elsewhere V} {r : Rate} {s : Project V} {events : List (Event V)}
    (counts : (gauge r s).Counts)
    (agrees : ∀ first, first <+: events → (gauge r (Machine.final (step e) s first)).Agrees)
    (closed : Machine.Always
      (fun first event => ¬ Opens e (Machine.final (step e) s first) event) events) :
    Sampled e r s events := by
  intro n constant
  obtain ⟨counter, there, rate⟩ := agrees [] List.nil_prefix
  have stands : counter = { rate := n, index := counter.index } := by
    rw [← constant [] List.nil_prefix]
    exact congrArg (fun rate => Counter.mk rate counter.index) rate
  obtain ⟨k, reports⟩ := reports_run events (stands ▸ there) closed agrees constant
  dsimp only
  rw [reports]
  refine ⟨fun off => samples_off off k _, fun on full => ?_⟩
  rw [length_samples] at full
  have zero := counts counter there
  exact count_samples k zero (by omega) (by omega) (by omega)

theorem numbers_step {e : Elsewhere V} {s : Project V}
    (numbers : ∀ r, jsonType (gauge r s).1 = .Double) (event : Event V) (r : Rate) :
    jsonType (gauge r (step e s event).1).1 = .Double := by
  cases event with
  | setAttr others key value trusted =>
      rw [gauge_set]
      rcases callGauge_cases (e := e) (s := seen s others) r key value trusted with
        ⟨value', -, set⟩ | same | ⟨-, set⟩
      · rw [set, turned]
        split
        next typed => exact typed.trans (numbers r)
        next => exact numbers r
      · rw [same]
        exact numbers r
      · rw [set]
        exact numbers r
  | report asked =>
      cases object : s.world.objectResult with
      | none =>
          rw [step_report_none asked object]
          exact numbers r
      | some o =>
          rw [gauge_report r asked object]
          split <;> exact numbers r

theorem numbers_launched {e : Elsewhere V} {v₁ v₂ : V} {dir : Bytes} {s : Project V}
    (launched : launch e v₁ v₂ dir = some s) (r : Rate) : jsonType (gauge r s).1 = .Double := by
  obtain ⟨obj, -, rates⟩ := launch_spec e launched
  rw [rates r, loaded]
  split
  · unfold turned
    split
    next typed => exact typed
    next => rfl
  · rfl

/-- A call with a value that is in a `QJsonValue`. -/
def Event.Holds (qt : QtJson) : Event V → Prop
  | .setAttr _ _ value _ => qt.Holds value
  | .report _ => True

theorem holds_step {e : Elsewhere V} {s : Project V} (holds : ∀ r, e.qt.Holds (gauge r s).1)
    {event : Event V} (given : event.Holds e.qt) (r : Rate) :
    e.qt.Holds (gauge r (step e s event).1).1 := by
  cases event with
  | setAttr others key value trusted =>
      rw [gauge_set]
      rcases callGauge_cases (e := e) (s := seen s others) r key value trusted with
        ⟨value', kept, set⟩ | same | ⟨-, set⟩
      · rw [set, turned]
        split
        next => exact kept given
        next => exact holds r
      · rw [same]
        exact holds r
      · rw [set]
        exact holds r
  | report asked =>
      cases object : s.world.objectResult with
      | none =>
          rw [step_report_none asked object]
          exact holds r
      | some o =>
          rw [gauge_report r asked object]
          split <;> exact holds r

theorem holds_launched {e : Elsewhere V} {v₁ v₂ : V} {dir : Bytes} {s : Project V}
    (launched : launch e v₁ v₂ dir = some s) (r : Rate) : e.qt.Holds (gauge r s).1 := by
  obtain ⟨obj, read, rates⟩ := launch_spec e launched
  have start : e.qt.Holds (int (-1)) := e.qt.holds_int (by decide) (by decide)
  rw [rates r, loaded]
  split
  next value found =>
      have file := isHeld_get e.qt.round (readObject_holds e.calls read) (utf8 "global")
      unfold turned
      split
      next => exact isHeld_value e.qt.round file found
      next => exact start
  next => exact start

/-- The rates are in `QJsonValue`s as long as the values of the calls are. -/
theorem holds_run {e : Elsewhere V} {s : Project V} (holds : ∀ r, e.qt.Holds (gauge r s).1)
    {events : List (Event V)} (given : ∀ event ∈ events, event.Holds e.qt) (r : Rate) :
    e.qt.Holds (gauge r (Machine.final (step e) s events)).1 := by
  induction events generalizing s with
  | nil => exact holds r
  | cons event events ih =>
      exact ih (holds_step holds (given event List.mem_cons_self))
        fun event later => given event (List.mem_cons_of_mem _ later)

/-- What a launch starts with and no event takes away. -/
theorem launched_run {e : Elsewhere V} {v₁ v₂ : V} {dir : Bytes} {s₀ : Project V}
    (launched : launch e v₁ v₂ dir = some s₀) (events : List (Event V)) :
    ∀ r, (gauge r (Machine.final (step e) s₀ events)).Counts ∧
      jsonType (gauge r (Machine.final (step e) s₀ events)).1 = .Double := by
  refine Machine.run_induction (step e)
    (P := fun _ s => ∀ r, (gauge r s).Counts ∧ jsonType (gauge r s).1 = .Double)
    (fun r => ⟨counts_launched launched r, numbers_launched launched r⟩) ?_ events
  exact fun _ event before r => ⟨counts_step (fun r => (before r).1) event r,
    numbers_step (fun r => (before r).2) event r⟩

/-- The rates agree all along a run where they do in the beginning and no event is harmful. -/
theorem agrees_run_iff {e : Elsewhere V} {v₁ v₂ : V} {dir : Bytes} {s₀ : Project V}
    (launched : launch e v₁ v₂ dir = some s₀) (events : List (Event V)) :
    (∀ first, first <+: events → ∀ r, (gauge r (Machine.final (step e) s₀ first)).Agrees) ↔
      Given e v₂ dir ∧
        Machine.Always (fun first event => Harmless e (Machine.final (step e) s₀ first) event)
          events := by
  rw [← agrees_launched launched]
  have turn := fun start : ∀ r, (gauge r s₀).Agrees =>
    Machine.prefixes_iff_always (step e) (I := fun s => ∀ r, (gauge r s).Agrees)
      (C := Harmless e) start (fun _ event agrees => agrees_step agrees event) events
  constructor
  · intro all
    have start := all [] List.nil_prefix
    exact ⟨start, (turn start).mp all⟩
  · rintro ⟨start, harmless⟩
    exact (turn start).mpr harmless

/-- **When attributes and rates agree all along a run**: the parameter file gives both as numbers,
and a definition is opened later only while the attributes are those of a new result object.  With no
such call, objects are reported as the attributes say, and by a console that is launched with the
saved file too. -/
theorem reportRates_exact {e : Elsewhere V} {v₁ v₂ : V} {dir : Bytes} {s₀ : Project V}
    (launched : launch e v₁ v₂ dir = some s₀) (events : List (Event V)) :
    ((∀ first, first <+: events → ∀ r, (gauge r (Machine.final (step e) s₀ first)).Agrees) ↔
      Given e v₂ dir ∧
        Machine.Always (fun first event => Harmless e (Machine.final (step e) s₀ first) event)
          events) ∧
    (Given e v₂ dir →
      Machine.Always (fun first event => ¬ Opens e (Machine.final (step e) s₀ first) event) events →
      (∀ first mid rest, events = first ++ mid ++ rest → ∀ r,
        Sampled e r (Machine.final (step e) s₀ first) mid) ∧
      ∀ first, first <+: events → (∀ event ∈ first, event.Holds e.qt) →
        Named e (Machine.final (step e) s₀ first) →
          Restarts e dir (Machine.final (step e) s₀ first)) := by
  refine ⟨agrees_run_iff launched events, fun given closed => ?_⟩
  have agrees := (agrees_run_iff launched events).mpr ⟨given, fun first event rest split opens =>
    absurd opens (closed first event rest split)⟩
  constructor
  · rintro first mid rest rfl r
    rw [Machine.always_append, Machine.always_append] at closed
    refine sampled_of_agrees (launched_run launched first r).1 (fun part here => ?_) ?_
    · rw [← Machine.final_append]
      obtain ⟨behind, rfl⟩ := here
      exact agrees (first ++ part) ⟨behind ++ rest, by simp⟩ r
    · simpa only [Machine.final_append] using closed.1.2
  · intro first here values named
    exact restarts_of_agrees dir named (agrees first here)
      (fun r => (launched_run launched first r).2) (holds_run (holds_launched launched) values)

/-! ## Two parameter files -/

/-- A console with one definition and this parameter file. -/
def consoleWith (params : JsonObject) : Elsewhere Unit where
  qt := .reference
  readAll _ path := some (QtJson.reference.toJson .Indented (.object
    (if path = definitionPath [] then [(utf8 "product", .string (utf8 "box"))] else params)))
  onStarted _ := ()
  onStopped _ := ()
  loadDefNodes _ _ := (true, ())
  loadObjects _ _ := ()
  init _ := (true, ())
  m_objects _ := []
  saveConfigFile _ _ _ := ()

/-- A file that tells no rates. -/
def bare : Elsewhere Unit := consoleWith [(utf8 "global", .object [])]

/-- A file that gives both. -/
def both : Elsewhere Unit :=
  consoleWith [(utf8 "global", .object
    [(utf8 "image_binning_rate", int 0), (utf8 "image_orginal_rate", int 2)])]

/-- With a file that tells no rates the attribute is -1, which is to report nothing, and the first
object is reported. -/
theorem bare_reports : ∃ s, launch bare () () [] = some s ∧
    (s.m_value Rate.original.key).toInt = -1 ∧ ¬ (gauge .original s).Agrees ∧
      (step bare s (.report .original)).2 = [.report .original true] := by
  have run : (launch bare () () []).map (fun s => ((gauge .original s).1.toInt,
      (gauge .original s).2, (step bare s (.report .original)).2)) =
      some (-1, some { rate := 1, index := 0 }, [.report .original true]) := by decide +kernel
  obtain ⟨s, launched, shows⟩ := Option.map_eq_some_iff.mp run
  obtain ⟨value, rest⟩ := Prod.mk.inj shows
  obtain ⟨counter, reported⟩ := Prod.mk.inj rest
  refine ⟨s, launched, value, ?_, reported⟩
  rintro ⟨other, there, same⟩
  rw [counter] at there
  obtain rfl := Option.some.inj there
  rw [value] at same
  exact absurd same (by decide)

theorem given_both : Given both () [] := by
  refine ⟨_, (?_ : _ = some [(utf8 "global", .object
    [(utf8 "image_binning_rate", int 0), (utf8 "image_orginal_rate", int 2)])]), ?_⟩
  · have text : QtJson.reference.object (QtJson.reference.toJson .Indented (.object
        [(utf8 "global", .object
          [(utf8 "image_binning_rate", int 0), (utf8 "image_orginal_rate", int 2)])])) = _ :=
      QtJson.object_of_holds .reference .Indented (by decide +kernel)
    simp only [paramsFile, readObject, both, consoleWith, Elsewhere.calls,
      if_neg (show paramsPath [] ≠ definitionPath [] by decide), text]
    simp
  · intro r
    cases r <;> decide

/-- Two objects, with a file that reports one in two. -/
theorem reportRates_both : ∃ s₀, launch both () () [] = some s₀ ∧
    (∀ first, first <+: [.report .original, .report .original] →
      ∀ r, (gauge r (Machine.final (step both) s₀ first)).Agrees) ∧
    Sampled both .original s₀ [.report .original, .report .original] := by
  obtain ⟨s₀, launched⟩ := Option.isSome_iff_exists.mp
    (show (launch both () () []).isSome = true by decide +kernel)
  obtain ⟨agrees, follows⟩ := reportRates_exact launched
    [.report .original, .report .original]
  have closed : ∀ first event rest,
      [.report .original, .report .original] = first ++ event :: rest →
        ¬ Opens both (Machine.final (step both) s₀ first) event := by
    intro first event rest split
    have here : event ∈ first ++ event :: rest := by simp
    rw [← split] at here
    simp only [List.mem_cons, List.not_mem_nil, or_false, or_self] at here
    subst here
    exact id
  refine ⟨s₀, launched, agrees.mpr ⟨given_both, fun first event rest split opens =>
    absurd opens (closed first event rest split)⟩, ?_⟩
  exact (follows given_both closed).1 [] _ [] (by simp) .original

end IsgConsole.Multipler.ReportRates
