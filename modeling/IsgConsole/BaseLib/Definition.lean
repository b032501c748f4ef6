/-
# BaseLib.Definition — the objects of a definition

`product_def.json` describes the cameras, sensors and executors of a project.  A node is an object or
an array of nodes, nested as deep as one likes; each object names the kind of device it stands for,
and a device is kept under the name of its node and its id.  A camera gets a result module, an
inference channel where the product uses classical algorithms, and a virtual camera.

* `loadDefNode_eq` — a node is loaded as the objects in it, one after another;
* `loadNodes_cases` — what nodes leave, and where some that are refused were left;
* `openDef_exact` — **which definitions are accepted, and what each leaves.**
-/
import Mathlib.Data.Finset.Basic
import IsgConsole.BaseLib.ObjectAttributes

namespace IsgConsole.BaseLib.Definition

open IsgConsole.Theory IsgConsole.Theory.Json

set_option autoImplicit false

/-! ## Loading -/

/-- What is known of the classes of objects, for objects of type `ο`. -/
structure Creators (ο : Type) where
  /-- `s_creator`; a creator may fail. -/
  s_creator : Bytes → Option (Int → Option ο)
  /-- `ptr->m_name.setValue(name, true)`. -/
  setName : Bytes → ο → ο

/-- The classes of `m_objectResult`. -/
inductive ObjectResult where
  | CBoxResult
  | CPacketResult
  deriving DecidableEq

/-- The objects of a project; of the result modules and channels, the cameras that have one. -/
structure Objects (ο : Type) where
  m_objectResult : Option ObjectResult
  m_objects : Hash Bytes ο
  m_imageMultiplers : Finset Int
  m_channelInfers : Finset Int
  m_virtualCameras : Hash Bytes ο

/-- A project as it is constructed. -/
def Objects.none {ο : Type} : Objects ο :=
  { m_objectResult := .none, m_objects := ∅, m_imageMultiplers := ∅, m_channelInfers := ∅
    m_virtualCameras := ∅ }

/-- `IAS_DT`, `IAS_AI` and `IAS_DT_AI`. -/
def IAS_DT : Int := 0
def IAS_AI : Int := 1
def IAS_DT_AI : Int := 2

def PRODUCT_TYPE_BOX : Bytes := utf8 "box"

/-- An object of a definition, under the name of its node. -/
structure Node where
  nodeName : Bytes
  definition : JsonObject

namespace Node

/-- Its id; an object without one has 0. -/
def id (node : Node) : Int :=
  match node.definition.value (utf8 "id") with
  | some value => value.toInt
  | none => 0

/-- The name it is kept under. -/
def name (node : Node) : Bytes :=
  match node.definition.value (utf8 "id") with
  | some value => node.nodeName ++ utf8 "-" ++ printInt value.toInt
  | none => node.nodeName

def vendor (node : Node) : Option Bytes :=
  match node.definition.value (utf8 "vendor") with
  | some value => some (value.toString [])
  | none => (node.definition.value (utf8 "type")).map (Json.toString [])

def isCamera (node : Node) : Bool := node.nodeName = utf8 "camera"

end Node

/-- `QString("virtual-%1").arg(id)`. -/
def virtualName (id : Int) : Bytes := utf8 "virtual-" ++ printInt id

section Load

variable {ο : Type} (creators : Creators ο) (algorithmType : Int)

/-- `EngineProject::createVirtualCamera`. -/
def createVirtualCamera (id : Int) (s : Objects ο) : Objects ο :=
  match creators.s_creator (utf8 "soft") with
  | none => s
  | some creator =>
      match creator id with
      | none => s
      | some ptr =>
          let name := virtualName id
          { s with m_virtualCameras := s.m_virtualCameras.insert name (creators.setName name ptr) }

/-- What a camera gets. -/
def createCamera (id : Int) (s : Objects ο) : Objects ο :=
  let s := { s with m_imageMultiplers := insert id s.m_imageMultiplers }
  let s :=
    if algorithmType = IAS_DT ∨ algorithmType = IAS_DT_AI then
      { s with m_channelInfers := insert id s.m_channelInfers }
    else s
  createVirtualCamera creators id s

/-- `EngineProject::loadDefNode` for an object. -/
def loadObject (node : Node) (s : Objects ο) : Bool × Objects ο :=
  match node.vendor with
  | none => (false, s)
  | some vendor =>
      if node.name ∈ s.m_objects then (false, s)
      else
        match creators.s_creator vendor with
        | none => (false, s)
        | some creator =>
            match creator node.id with
            | none => (false, s)
            | some ptr =>
                let s := if node.isCamera then createCamera creators algorithmType node.id s else s
                (true, { s with
                  m_objects := s.m_objects.insert node.name (creators.setName node.name ptr) })

mutual

/-- `EngineProject::loadDefNode`. -/
def loadDefNode (nodeName : Bytes) : Json → Objects ο → Bool × Objects ο
  | .object definition, s => loadObject creators algorithmType { nodeName, definition } s
  | .array items, s => loadItems nodeName items s
  | _, s => (true, s)

/-- Its loop over an array. -/
def loadItems (nodeName : Bytes) : List Json → Objects ο → Bool × Objects ο
  | [], s => (true, s)
  | item :: items, s =>
      match loadDefNode nodeName item s with
      | (true, s) => loadItems nodeName items s
      | (false, s) => (false, s)

end

/-- The result module of a product. -/
def resultOf (productType : Bytes) : ObjectResult :=
  if productType = PRODUCT_TYPE_BOX then .CBoxResult else .CPacketResult

/-- The objects that `EngineProject::openDef` creates, for a product and the object of the file. -/
def loadDef (productType : Bytes) (obj : JsonObject) (s : Objects ο) : Bool × Objects ο :=
  let s := { s with m_objectResult := some (resultOf productType) }
  match loadDefNode creators algorithmType (utf8 "camera") (obj.get (utf8 "camera")) s with
  | (false, s) => (false, s)
  | (true, s) =>
      let sensors :=
        if productType = PRODUCT_TYPE_BOX then
          loadDefNode creators algorithmType (utf8 "sensor") (obj.get (utf8 "sensor")) s
        else (true, s)
      match sensors with
      | (false, s) => (false, s)
      | (true, s) =>
          loadDefNode creators algorithmType (utf8 "executor") (obj.get (utf8 "executor")) s

/-! ## One object after another -/

/-- Objects, until one is refused. -/
def loadNodes : List Node → Objects ο → Bool × Objects ο
  | [], s => (true, s)
  | node :: nodes, s =>
      match loadObject creators algorithmType node s with
      | (true, s) => loadNodes nodes s
      | (false, s) => (false, s)

end Load

mutual

/-- The objects in a node, from the front. -/
def nodesOf (nodeName : Bytes) : Json → List Node
  | .object definition => [{ nodeName, definition }]
  | .array items => nodesOfItems nodeName items
  | _ => []

def nodesOfItems (nodeName : Bytes) : List Json → List Node
  | [] => []
  | item :: items => nodesOf nodeName item ++ nodesOfItems nodeName items

end

/-- The objects of a definition. -/
def nodesOfDef (productType : Bytes) (obj : JsonObject) : List Node :=
  nodesOf (utf8 "camera") (obj.get (utf8 "camera")) ++
    ((if productType = PRODUCT_TYPE_BOX then nodesOf (utf8 "sensor") (obj.get (utf8 "sensor"))
      else []) ++
      nodesOf (utf8 "executor") (obj.get (utf8 "executor")))

mutual

theorem nodeName_of_mem {nodeName : Bytes} {json : Json} {node : Node}
    (there : node ∈ nodesOf nodeName json) : node.nodeName = nodeName := by
  cases json with
  | object definition =>
      rw [nodesOf, List.mem_singleton] at there
      rw [there]
  | array items => exact nodeName_of_mem_items there
  | null | bool | number | string => cases there

theorem nodeName_of_mem_items {nodeName : Bytes} {items : List Json} {node : Node}
    (there : node ∈ nodesOfItems nodeName items) : node.nodeName = nodeName := by
  cases items with
  | nil => cases there
  | cons item items =>
      rw [nodesOfItems, List.mem_append] at there
      rcases there with first | later
      · exact nodeName_of_mem first
      · exact nodeName_of_mem_items later

end

/-- The names of the nodes of a definition. -/
theorem nodeName_cases {productType : Bytes} {obj : JsonObject} {node : Node}
    (there : node ∈ nodesOfDef productType obj) :
    node.nodeName = utf8 "camera" ∨ node.nodeName = utf8 "sensor" ∨
      node.nodeName = utf8 "executor" := by
  rcases List.mem_append.mp there with camera | other
  · exact .inl (nodeName_of_mem camera)
  rcases List.mem_append.mp other with sensor | executor
  · split at sensor
    next => exact .inr (.inl (nodeName_of_mem sensor))
    next => cases sensor
  · exact .inr (.inr (nodeName_of_mem executor))

/-- No object of a definition is named as the project is. -/
theorem name_ne_global {productType : Bytes} {obj : JsonObject} {node : Node}
    (there : node ∈ nodesOfDef productType obj) : node.name ≠ utf8 "global" := by
  have names := nodeName_cases there
  have first : node.nodeName ++ node.name.drop node.nodeName.length = node.name := by
    unfold Node.name
    cases node.definition.value (utf8 "id") with
    | some value => simp
    | none => simp
  intro same
  rw [same] at first
  -- the first byte tells them apart
  rcases names with camera | sensor | executor
  · rw [camera] at first
    cases first
  · rw [sensor] at first
    cases first
  · rw [executor] at first
    cases first

section Load

variable {ο : Type} (creators : Creators ο) (algorithmType : Int)

theorem loadNodes_append (front back : List Node) (s : Objects ο) :
    loadNodes creators algorithmType (front ++ back) s =
      match loadNodes creators algorithmType front s with
      | (true, s) => loadNodes creators algorithmType back s
      | (false, s) => (false, s) := by
  induction front generalizing s with
  | nil => rfl
  | cons node front ih =>
      rw [List.cons_append, loadNodes, loadNodes]
      rcases loadObject creators algorithmType node s with ⟨_ | _, s'⟩
      · rfl
      · exact ih s'

mutual

/-- **A node is loaded as the objects in it, one after another.** -/
theorem loadDefNode_eq (nodeName : Bytes) (json : Json) (s : Objects ο) :
    loadDefNode creators algorithmType nodeName json s =
      loadNodes creators algorithmType (nodesOf nodeName json) s := by
  cases json with
  | object definition =>
      rw [loadDefNode, nodesOf, loadNodes]
      rcases loadObject creators algorithmType { nodeName, definition } s with ⟨_ | _, s'⟩ <;> rfl
  | array items =>
      rw [loadDefNode, nodesOf]
      exact loadItems_eq nodeName items s
  | null => rfl
  | bool b => rfl
  | number d => rfl
  | string text => rfl

theorem loadItems_eq (nodeName : Bytes) (items : List Json) (s : Objects ο) :
    loadItems creators algorithmType nodeName items s =
      loadNodes creators algorithmType (nodesOfItems nodeName items) s := by
  cases items with
  | nil => rfl
  | cons item items =>
      rw [loadItems, nodesOfItems, loadNodes_append, loadDefNode_eq nodeName item s]
      rcases loadNodes creators algorithmType (nodesOf nodeName item) s with ⟨_ | _, s'⟩
      · rfl
      · exact loadItems_eq nodeName items s'

end

/-- **A definition is loaded as its objects, one after another.** -/
theorem loadDef_eq (productType : Bytes) (obj : JsonObject) (s : Objects ο) :
    loadDef creators algorithmType productType obj s =
      loadNodes creators algorithmType (nodesOfDef productType obj)
        { s with m_objectResult := some (resultOf productType) } := by
  unfold loadDef nodesOfDef
  generalize { s with m_objectResult := some (resultOf productType) } = s
  dsimp only
  rw [loadNodes_append, loadDefNode_eq]
  rcases loadNodes creators algorithmType (nodesOf (utf8 "camera") (obj.get (utf8 "camera"))) s
    with ⟨_ | _, s⟩
  · rfl
  · dsimp only
    rw [loadNodes_append, loadDefNode_eq]
    by_cases box : productType = PRODUCT_TYPE_BOX
    · rw [if_pos box, if_pos box]
      rcases loadNodes creators algorithmType (nodesOf (utf8 "sensor") (obj.get (utf8 "sensor"))) s
        with ⟨_ | _, s'⟩
      · rfl
      · exact loadDefNode_eq creators algorithmType _ _ s'
    · rw [if_neg box, if_neg box]
      exact loadDefNode_eq creators algorithmType _ _ s

/-! ## What is loaded -/

/-- The object that a kind of device is created as. -/
def create (vendor : Bytes) (id : Int) : Option ο :=
  (creators.s_creator vendor).bind fun creator => creator id

/-- The object that is created for a node, under its name. -/
def created (node : Node) : Option ο :=
  (node.vendor.bind fun vendor => create creators vendor node.id).map (creators.setName node.name)

/-- The product uses classical algorithms. -/
def Classical (algorithmType : Int) : Prop := algorithmType = IAS_DT ∨ algorithmType = IAS_DT_AI

/-- What some nodes add to the objects of a project. -/
structure Adds (nodes : List Node) (s s' : Objects ο) : Prop where
  objectResult : s'.m_objectResult = s.m_objectResult
  objects : ∀ node ∈ nodes, ∃ ptr, created creators node = some ptr ∧
    s'.m_objects.lookup node.name = some ptr
  others : ∀ name ∉ nodes.map Node.name, s'.m_objects.lookup name = s.m_objects.lookup name
  imageMultiplers : ∀ id, id ∈ s'.m_imageMultiplers ↔
    id ∈ s.m_imageMultiplers ∨ ∃ node ∈ nodes, node.isCamera = true ∧ node.id = id
  channelInfers : ∀ id, id ∈ s'.m_channelInfers ↔
    id ∈ s.m_channelInfers ∨ Classical algorithmType ∧
      ∃ node ∈ nodes, node.isCamera = true ∧ node.id = id
  virtualCameras : ∀ name, name ∈ s'.m_virtualCameras ↔
    name ∈ s.m_virtualCameras ∨ ∃ node ∈ nodes, node.isCamera = true ∧
      virtualName node.id = name ∧ (create creators (utf8 "soft") node.id).isSome

/-- Nodes that are accepted behind the objects of a project. -/
structure Accepted (nodes : List Node) (s : Objects ο) : Prop where
  known : ∀ node ∈ nodes, (created creators node).isSome
  distinct : (nodes.map Node.name).Nodup
  fresh : ∀ node ∈ nodes, node.name ∉ s.m_objects

theorem createVirtualCamera_eq (id : Int) (s : Objects ο) :
    createVirtualCamera creators id s =
      { s with m_virtualCameras :=
          match create creators (utf8 "soft") id with
          | some ptr =>
              s.m_virtualCameras.insert (virtualName id) (creators.setName (virtualName id) ptr)
          | none => s.m_virtualCameras } := by
  unfold createVirtualCamera create
  cases creators.s_creator (utf8 "soft") with
  | none => rfl
  | some creator =>
      dsimp only [Option.bind_some]
      cases creator id <;> rfl

/-- What a camera gets. -/
structure Equips (id : Int) (s s' : Objects ο) : Prop where
  objectResult : s'.m_objectResult = s.m_objectResult
  objects : s'.m_objects = s.m_objects
  imageMultiplers : ∀ other, other ∈ s'.m_imageMultiplers ↔ other ∈ s.m_imageMultiplers ∨ id = other
  channelInfers : ∀ other, other ∈ s'.m_channelInfers ↔
    other ∈ s.m_channelInfers ∨ Classical algorithmType ∧ id = other
  virtualCameras : ∀ name, name ∈ s'.m_virtualCameras ↔
    name ∈ s.m_virtualCameras ∨ virtualName id = name ∧ (create creators (utf8 "soft") id).isSome

theorem createCamera_equips (id : Int) (s : Objects ο) :
    Equips creators algorithmType id s (createCamera creators algorithmType id s) := by
  have virtual : ∀ (cameras : Hash Bytes ο) (name : Bytes),
      (name ∈ match create creators (utf8 "soft") id with
        | some ptr => cameras.insert (virtualName id) (creators.setName (virtualName id) ptr)
        | none => cameras) ↔
      name ∈ cameras ∨ virtualName id = name ∧ (create creators (utf8 "soft") id).isSome := by
    intro cameras name
    cases create creators (utf8 "soft") id with
    | none => simp
    | some ptr =>
        rw [AList.mem_insert, or_comm, eq_comm]
        simp
  unfold createCamera
  dsimp only
  rw [createVirtualCamera_eq]
  by_cases classical : algorithmType = IAS_DT ∨ algorithmType = IAS_DT_AI
  · rw [if_pos classical]
    refine ⟨rfl, rfl, fun other => ?_, fun other => ?_, virtual s.m_virtualCameras⟩
    · rw [Finset.mem_insert, or_comm, eq_comm]
    · rw [Finset.mem_insert, or_comm, eq_comm]
      simp [Classical, classical]
  · rw [if_neg classical]
    refine ⟨rfl, rfl, fun other => ?_, fun other => ?_, virtual s.m_virtualCameras⟩
    · rw [Finset.mem_insert, or_comm, eq_comm]
    · simp [Classical, classical]

/-- What is there behind one node. -/
theorem adds_one {node : Node} {ptr : ο} (made : created creators node = some ptr)
    (s : Objects ο) :
    Adds creators algorithmType [node] s
      { (if node.isCamera then createCamera creators algorithmType node.id s else s) with
        m_objects := s.m_objects.insert node.name ptr } := by
  have objects : ∀ other ∈ [node], ∃ ptr', created creators other = some ptr' ∧
      (s.m_objects.insert node.name ptr).lookup other.name = some ptr' := by
    intro other there
    rw [List.mem_singleton.mp there]
    exact ⟨ptr, made, AList.lookup_insert _⟩
  have others : ∀ name ∉ [node].map Node.name,
      (s.m_objects.insert node.name ptr).lookup name = s.m_objects.lookup name :=
    fun name absent => AList.lookup_insert_ne fun same => absent (by simp [same])
  by_cases camera : node.isCamera = true
  · rw [if_pos camera]
    have equips := createCamera_equips creators algorithmType node.id s
    refine ⟨equips.objectResult, objects, others, fun id => ?_, fun id => ?_, fun name => ?_⟩
    · exact (equips.imageMultiplers id).trans (by simp [camera])
    · exact (equips.channelInfers id).trans (by simp [camera])
    · exact (equips.virtualCameras name).trans (by simp [camera])
  · rw [if_neg camera]
    exact ⟨rfl, objects, others, by simp [camera], by simp [camera], by simp [camera]⟩

/-- An object is refused, and nothing happens, or it is created. -/
theorem loadObject_cases (node : Node) (s : Objects ο) :
    (loadObject creators algorithmType node s = (false, s) ∧
      (created creators node = none ∨ node.name ∈ s.m_objects)) ∨
    ∃ s', loadObject creators algorithmType node s = (true, s') ∧
      node.name ∉ s.m_objects ∧ Adds creators algorithmType [node] s s' := by
  unfold loadObject
  cases kind : node.vendor with
  | none => exact .inl ⟨rfl, .inl (by simp [created, kind])⟩
  | some vendor =>
      by_cases held : node.name ∈ s.m_objects
      · exact .inl ⟨if_pos held, .inr held⟩
      dsimp only
      rw [if_neg held]
      cases known : creators.s_creator vendor with
      | none => exact .inl ⟨rfl, .inl (by simp [created, create, kind, known])⟩
      | some creator =>
          cases made : creator node.id with
          | none => exact .inl ⟨by simp [made], .inl (by simp [created, create, kind, known, made])⟩
          | some ptr =>
              have this : created creators node = some (creators.setName node.name ptr) := by
                simp [created, create, kind, known, made]
              have kept : (if node.isCamera then createCamera creators algorithmType node.id s
                  else s).m_objects = s.m_objects := by
                split
                next => exact (createCamera_equips creators algorithmType node.id s).objects
                next => rfl
              refine .inr ⟨_, by dsimp only; rw [made], held, ?_⟩
              simp only [kept]
              exact adds_one creators algorithmType this s

variable {creators algorithmType} in
/-- Nodes behind other nodes. -/
theorem Adds.trans {nodes more : List Node} {s s' s'' : Objects ο}
    (first : Adds creators algorithmType nodes s s')
    (second : Adds creators algorithmType more s' s'')
    (apart : ∀ node ∈ nodes, node.name ∉ more.map Node.name) :
    Adds creators algorithmType (nodes ++ more) s s'' := by
  refine ⟨second.objectResult.trans first.objectResult, fun node there => ?_, fun name absent => ?_,
    fun id => ?_, fun id => ?_, fun name => ?_⟩
  · rcases List.mem_append.mp there with early | late
    · obtain ⟨ptr, made, held⟩ := first.objects node early
      exact ⟨ptr, made, (second.others _ (apart node early)).trans held⟩
    · exact second.objects node late
  · rw [List.map_append, List.mem_append, not_or] at absent
    exact (second.others name absent.2).trans (first.others name absent.1)
  · rw [second.imageMultiplers, first.imageMultiplers]
    simp only [List.mem_append, or_and_right, exists_or, or_assoc]
  · rw [second.channelInfers, first.channelInfers]
    simp only [List.mem_append, or_and_right, exists_or, and_or_left, or_assoc]
  · rw [second.virtualCameras, first.virtualCameras]
    simp only [List.mem_append, or_and_right, exists_or, or_assoc]

theorem adds_nil (s : Objects ο) : Adds creators algorithmType [] s s :=
  ⟨rfl, by simp, by simp, by simp, by simp, by simp⟩

variable {creators algorithmType} in
/-- The names behind some nodes. -/
theorem Adds.mem_objects {nodes : List Node} {s s' : Objects ο}
    (adds : Adds creators algorithmType nodes s s') {name : Bytes} :
    name ∈ s'.m_objects ↔ name ∈ s.m_objects ∨ name ∈ nodes.map Node.name := by
  by_cases there : name ∈ nodes.map Node.name
  · obtain ⟨node, here, rfl⟩ := List.mem_map.mp there
    obtain ⟨ptr, -, held⟩ := adds.objects node here
    exact iff_of_true (Hash.mem_of_lookup held) (.inr there)
  · rw [← AList.lookup_isSome, adds.others name there, AList.lookup_isSome]
    simp [there]

/-- **What nodes leave**: all of them are created, or those in front of the first that is refused. -/
theorem loadNodes_cases (nodes : List Node) (s : Objects ο) :
    (∃ s', loadNodes creators algorithmType nodes s = (true, s') ∧ Accepted creators nodes s ∧
      Adds creators algorithmType nodes s s') ∨
    ∃ front node rest s', nodes = front ++ node :: rest ∧
      loadNodes creators algorithmType nodes s = (false, s') ∧ Accepted creators front s ∧
      Adds creators algorithmType front s s' ∧
      (created creators node = none ∨ node.name ∈ s'.m_objects) := by
  induction nodes generalizing s with
  | nil =>
      exact .inl ⟨s, rfl, ⟨by simp, List.nodup_nil, by simp⟩, adds_nil creators algorithmType s⟩
  | cons node nodes ih =>
      rw [loadNodes]
      rcases loadObject_cases creators algorithmType node s with ⟨refused, why⟩ |
        ⟨s', loaded, fresh, one⟩
      · rw [refused]
        exact .inr ⟨[], node, nodes, s, rfl, rfl, ⟨by simp, List.nodup_nil, by simp⟩,
          adds_nil creators algorithmType s, why⟩
      rw [loaded]
      -- nodes behind this one have other names, and are accepted behind it
      have behind {more : List Node} (accepted : Accepted creators more s') :
          Accepted creators (node :: more) s ∧ ∀ other ∈ [node], other.name ∉ more.map Node.name := by
        have other : node.name ∉ more.map Node.name := by
          intro same
          obtain ⟨twin, there, named⟩ := List.mem_map.mp same
          exact accepted.fresh twin there (one.mem_objects.mpr (.inr (by simp [named])))
        refine ⟨⟨fun n there => ?_, ?_, fun n there => ?_⟩, by simpa using other⟩
        · rcases List.mem_cons.mp there with rfl | later
          · obtain ⟨ptr, made, -⟩ := one.objects n (List.mem_singleton_self n)
            rw [made, Option.isSome_some]
          · exact accepted.known n later
        · exact List.nodup_cons.mpr ⟨other, accepted.distinct⟩
        · rcases List.mem_cons.mp there with rfl | later
          · exact fresh
          · exact fun held => accepted.fresh n later (one.mem_objects.mpr (.inl held))
      rcases ih s' with ⟨s'', all, accepted, adds⟩ |
        ⟨front, bad, rest, s'', rfl, stopped, accepted, adds, why⟩
      · obtain ⟨whole, apart⟩ := behind accepted
        exact .inl ⟨s'', all, whole, one.trans adds apart⟩
      · obtain ⟨whole, apart⟩ := behind accepted
        exact .inr ⟨node :: front, bad, rest, s'', rfl, stopped, whole, one.trans adds apart, why⟩

variable {creators algorithmType} in
/-- A node that is refused behind others is refused with them. -/
theorem Adds.not_accepted {front : List Node} {node : Node} {s s' : Objects ο}
    (adds : Adds creators algorithmType front s s')
    (why : created creators node = none ∨ node.name ∈ s'.m_objects) (rest : List Node) :
    ¬ Accepted creators (front ++ node :: rest) s := by
  intro whole
  have there : node ∈ front ++ node :: rest := List.mem_append_right front List.mem_cons_self
  rcases why with unknown | held
  · have known := whole.known node there
    rw [unknown] at known
    cases known
  rcases adds.mem_objects.mp held with before | early
  · exact whole.fresh node there before
  · have distinct := whole.distinct
    rw [List.map_append, List.nodup_append] at distinct
    exact distinct.2.2 _ early _ (List.mem_map_of_mem List.mem_cons_self) rfl

/-- Some nodes that are accepted, and no more than these from the front. -/
structure Longest (front nodes : List Node) (s : Objects ο) : Prop where
  early : front <+: nodes
  accepted : Accepted creators front s
  longest : ∀ more, more <+: nodes → Accepted creators more s → more <+: front

/-- Nodes are loaded as far as they are accepted. -/
theorem loadNodes_exact (nodes : List Node) (s : Objects ο) :
    ∃ front, Longest creators front nodes s ∧
      Adds creators algorithmType front s (loadNodes creators algorithmType nodes s).2 ∧
      ((loadNodes creators algorithmType nodes s).1 = true ↔ Accepted creators nodes s) := by
  rcases loadNodes_cases creators algorithmType nodes s with ⟨s', all, accepted, adds⟩ |
    ⟨front, node, rest, s', rfl, stopped, accepted, adds, why⟩
  · rw [all]
    exact ⟨nodes, ⟨List.prefix_refl nodes, accepted, fun more early _ => early⟩, adds,
      iff_of_true rfl accepted⟩
  · rw [stopped]
    have longest : ∀ more, more <+: front ++ node :: rest → Accepted creators more s →
        more <+: front := by
      intro more early held
      rcases List.prefix_or_prefix_of_prefix early (List.prefix_append front _) with short | long
      · exact short
      obtain ⟨tail, rfl⟩ := long
      cases tail with
      | nil => rw [List.append_nil]
      | cons next tail =>
          have same := List.prefix_append_right_inj front |>.mp early
          obtain ⟨rfl, -⟩ := List.cons_prefix_cons.mp same
          exact absurd held (adds.not_accepted why tail)
    exact ⟨front, ⟨List.prefix_append front _, accepted, longest⟩, adds,
      iff_of_false Bool.false_ne_true (adds.not_accepted why rest)⟩

end Load

/-! ## The project -/

/-- What is outside of a project: its objects, and the rest. -/
structure Surroundings (ο V : Type) where
  objects : Objects ο
  rest : V

section Project

variable {ο V : Type} (creators : Creators ο)

/-- `EngineProject::openDef` behind the attributes it sets. -/
def loadDefNodes (s : EngineObject (Surroundings ο V)) (obj : JsonObject) :
    Bool × Surroundings ο V :=
  let productType := (s.m_value (utf8 "product")).toString []
  let algorithmType := (s.m_value (utf8 "algorithm_type")).toInt
  let (loaded, objects) := loadDef creators algorithmType productType obj s.world.objects
  (loaded, { s.world with objects := objects })

/-- A project whose objects are created so. -/
def loading (out : ProjectCalls (Surroundings ο V)) : ProjectCalls (Surroundings ο V) :=
  { out with loadDefNodes := loadDefNodes creators }

/-- A number that was read as an `int` is read so again. -/
theorem toInt_toInt (json : Json) : (Json.int json.toInt).toInt = json.toInt := by
  have small : -2 ^ 31 ≤ json.toInt ∧ json.toInt < 2 ^ 31 := by
    cases json with
    | number d =>
        dsimp only [Json.toInt, Decimal.toInt?]
        split
        next int => exact int.2
        next => decide
    | null | bool | string | array | object => simp [Json.toInt]
  rw [Json.toInt_int, if_pos small]

/-- An attribute without a setter takes any value of its type. -/
theorem setValue_free {W : Type} {a : Attribute W} (free : a.m_setter = none) {s : EngineObject W}
    {value : Json} (type : jsonType value = jsonType (s.m_value a.m_key)) (trusted : Bool) :
    (a.setValue s value trusted).2 = s.put a.m_key value := by
  rw [Attribute.setValue, if_neg (not_not.mpr type), free]

/-- A path that is trusted leaves outside what loading its file leaves. -/
theorem setValue_trusted_world {W : Type} {a : Attribute W} {sets : List Bytes}
    {load : EngineObject W → Bytes → Bool × EngineObject W}
    (setter : a.m_setter = some (.file sets load)) {s : EngineObject W} {value : Json}
    (type : jsonType value = jsonType (s.m_value a.m_key)) :
    (a.setValue s value true).2.world = (load s (value.toString [])).2.world := by
  rw [Attribute.setValue, if_neg (not_not.mpr type), setter]
  simp only [Setter.run, if_true]
  cases (load s (value.toString [])).1 <;> rfl

/-- `openDef` loads the objects for the product and the algorithms of its file. -/
theorem openDef_objects (out : ProjectCalls (Surroundings ο V))
    {s : EngineObject (Surroundings ο V)}
    (sound : Sound (projectAttributes (loading creators out)) s) {path : Bytes} {obj : JsonObject}
    (given : path ≠ []) (read : readObject (loading creators out) s.world path = some obj) :
    (openDef (loading creators out) s path).1 =
        (loadDef creators (obj.get (utf8 "algorithm_type")).toInt
          ((obj.get (utf8 "product")).toString []) obj s.world.objects).1 ∧
      (openDef (loading creators out) s path).2.world.objects =
        (loadDef creators (obj.get (utf8 "algorithm_type")).toInt
          ((obj.get (utf8 "product")).toString []) obj s.world.objects).2 ∧
      (openDef (loading creators out) s path).2.world.rest = s.world.rest := by
  have ne : utf8 "product" ≠ utf8 "algorithm_type" := utf8_injective.ne (by decide)
  have product : jsonType (s.m_value (utf8 "product")) = .String :=
    (sound m_productType (mem_projectAttributes _ (by simp))).1
  have algorithm : jsonType (s.m_value (utf8 "algorithm_type")) = .Double :=
    (sound m_algorithmType (mem_projectAttributes _ (by simp))).1
  set name : Json := .string ((obj.get (utf8 "product")).toString [])
  set kind : Json := .int (obj.get (utf8 "algorithm_type")).toInt
  have int : kind.toInt = (obj.get (utf8 "algorithm_type")).toInt := toInt_toInt _
  have string : jsonType name = jsonType (s.m_value (utf8 "product")) := product.symm
  have first : (m_productType.setValue s name false).2 = s.put (utf8 "product") name :=
    setValue_free (a := m_productType) rfl string false
  have typed : jsonType kind = jsonType ((s.put (utf8 "product") name).m_value
      (utf8 "algorithm_type")) := by
    rw [EngineObject.put_other _ ne.symm]
    exact algorithm.symm
  have second : (m_algorithmType.setValue (s.put (utf8 "product") name) kind false).2 =
      (s.put (utf8 "product") name).put (utf8 "algorithm_type") kind :=
    setValue_free (a := m_algorithmType) rfl typed false
  simp only [openDef, if_neg given, read]
  rw [first, second]
  simp only [loading, loadDefNodes, EngineObject.put_self, EngineObject.put_other _ ne, int]
  exact ⟨rfl, rfl, rfl⟩

variable (out : ProjectCalls (Surroundings ο V))

/-- `setAttr("def", path, true)`. -/
def openCall (world : Surroundings ο V) (path : Bytes) : EngineClass.Call (Surroundings ο V) where
  world := world
  key := utf8 "def"
  value := .string path
  trusted := true

/-- The call is answered as `openDef` answers, and leaves what that leaves. -/
theorem step_openCall {s : EngineObject (Surroundings ο V)}
    (sound : Sound (projectAttributes (loading creators out)) s) (world : Surroundings ο V)
    (path : Bytes) :
    let r := openDef (loading creators out) { s with world := world } path
    ((project (loading creators out)).step s (openCall world path)).2 = [r.1] ∧
      ((project (loading creators out)).step s (openCall world path)).1.world = r.2.world := by
  intro r
  have own : m_def (loading creators out) ∈ (project (loading creators out)).attrList :=
    mem_projectAttributes _ (by simp)
  have type : jsonType (openCall world path).value =
      jsonType (({ s with world := (openCall world path).world } :
        EngineObject (Surroundings ο V)).m_value (m_def (loading creators out)).m_key) :=
    (sound _ own).1.symm
  have found : ((project (loading creators out)).attrList.find? fun a =>
      a.m_key = (openCall world path).key) = some (m_def (loading creators out)) :=
    EngineClass.find_eq own
  rw [EngineClass.step_eq found]
  obtain ⟨answer, -⟩ := setValue_trusted (a := m_def (loading creators out)) rfl type
  exact ⟨congrArg (fun answer => [answer]) answer,
    setValue_trusted_world (a := m_def (loading creators out)) rfl type⟩

/-- **Which definitions are accepted, and what each leaves.**  A definition is accepted if there is
an object for each of its nodes and no two have one name.  What is there behind it, accepted or not,
is the longest part of its nodes that can be accepted, with what the cameras among them get. -/
theorem openDef_exact (start world : Surroundings ο V)
    (calls : List (EngineClass.Call (Surroundings ο V))) {path : Bytes} {obj : JsonObject}
    (given : path ≠ []) (read : readObject (loading creators out) world path = some obj) :
    let cls := project (loading creators out)
    let s := Machine.final cls.step (cls.constructed start) calls
    let opened := cls.step s (openCall world path)
    let productType := (obj.get (utf8 "product")).toString []
    let algorithmType := (obj.get (utf8 "algorithm_type")).toInt
    let before := { world.objects with m_objectResult := some (resultOf productType) }
    let nodes := nodesOfDef productType obj
    ∃ front, Longest creators front nodes before ∧
      Adds creators algorithmType front before opened.1.world.objects ∧
      (opened.2 = [true] ↔ Accepted creators nodes before) := by
  intro cls s opened productType algorithmType before nodes
  have sound : Sound cls.attrList s := EngineClass.sound_run start calls
  obtain ⟨answer, left⟩ := step_openCall creators out sound world path
  obtain ⟨loaded, objects, -⟩ := openDef_objects creators out (s := { s with world := world })
    (fun a own => sound a own) given read
  obtain ⟨front, longest, adds, accepted⟩ := loadNodes_exact creators algorithmType nodes before
  rw [loadDef_eq] at loaded objects
  have opens : opened.2 = [true] ↔
      (loadNodes creators algorithmType nodes before).1 = true := by
    rw [answer, loaded, List.cons.injEq, and_iff_left rfl]
  refine ⟨front, longest, ?_, opens.trans accepted⟩
  rw [left, objects]
  exact adds

end Project

def noObjects : Surroundings Bytes Unit where
  objects := .none
  rest := ()

/-- There are soft cameras, kept as their names. -/
def softCreators : Creators Bytes where
  s_creator vendor := if vendor = utf8 "soft" then some fun _ => some [] else none
  setName name _ := name

/-- A console that finds this definition in every file. -/
def consoleWith (definition : JsonObject) : ProjectCalls (Surroundings Bytes Unit) where
  onStarted s := s.world
  onStopped s := s.world
  qt := .reference
  readAll _ _ := some (QtJson.reference.toJson .Compact (.object definition))
  loadDefNodes s _ := (false, s.world)
  loadObjects s _ := s
  init s := (true, s.world)
  m_objects _ := []
  saveConfigFile s _ _ := s
  objectResult _ := false
  originalReportRateSet s _ := s
  binningReportRateSet s _ := s

/-- A camera without an id, and one with 0. -/
def twoCameras : JsonObject :=
  [(utf8 "camera", .array [.object [(utf8 "type", .string (utf8 "soft"))],
    .object [(utf8 "id", .number (Decimal.ofInt 0)), (utf8 "type", .string (utf8 "soft"))]])]

theorem openDef_exact_twoCameras :
    let cls := project (loading softCreators (consoleWith twoCameras))
    (cls.step (cls.constructed noObjects) (openCall noObjects (utf8 "product_def.json"))).2 =
      [true] := by
  have text : QtJson.reference.object (QtJson.reference.toJson .Compact (.object twoCameras)) =
      twoCameras := QtJson.object_of_holds .reference .Compact (by decide +kernel)
  have members : twoCameras ≠ [] := List.cons_ne_nil _ _
  have read : readObject (loading softCreators (consoleWith twoCameras)) noObjects
      (utf8 "product_def.json") = some twoCameras := by
    simp only [readObject, loading, consoleWith]
    simp [text, members]
  obtain ⟨front, longest, adds, answer⟩ := openDef_exact softCreators (consoleWith twoCameras)
    noObjects noObjects [] (by decide) read
  exact answer.mpr ⟨by decide, by decide, by decide⟩

end IsgConsole.BaseLib.Definition
