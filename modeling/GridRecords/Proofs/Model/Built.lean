/-
# Entities built through the constructors

`Entity.Built` holds for the entities that the constructors of the domain can give: every checked
part went through its constructor, and every entity referred to was built itself.  The placeholder
for no operator is the one entity that is there without being built.

For each kind a lemma `rebuild` says that the parts of such an entity were built and that its
constructor gives it back from its own parts.  So whatever an entity refers to was built as well
(`Built.of_mem_dependencies`).
-/
import GridRecords.Model.Relation
import GridRecords.Proofs.Model.Checked

namespace GridRecords

/-- A position inside the ranges of its ordinates. -/
def GeoPoint.Built (p : GeoPoint) : Prop := ∃ lon lat, GeoPoint.ofOrdinates lon lat = .ok p

/-- A window of operation that does not end before it starts. -/
def OperationTime.Built (w : OperationTime) : Prop :=
  ∃ start finish, OperationTime.checked start finish = .ok w

/-- An entity that the constructors of the domain give. -/
inductive Entity.Built : Entity → Prop
  | unassigned : Built (.operator .unassigned)
  | operator {uuid : Uuid} {id : String} {o : Operator}
      (checked : Operator.checked uuid id = .ok o) : Built (.operator o)
  | voltageLevel {id : String} {nominal : Quantity} {v : VoltageLevel}
      (checked : VoltageLevel.checked id nominal = .ok v) : Built (.voltageLevel v)
  | node {asset : Asset} {vTarget : Quantity} {slack : Bool} {position : Option GeoPoint}
      {level : VoltageLevel} {subnet : Int} {n : Node}
      (operator : Built (.operator asset.operator)) (time : asset.operationTime.Built)
      (inRange : ∀ p, position = some p → p.Built) (hasLevel : Built (.voltageLevel level))
      (checked : Node.checked asset vTarget slack position level subnet = .ok n) : Built (.node n)
  | lineType {uuid : Uuid} {id : String} {b g r x iMax vRated : Quantity} {t : LineType}
      (checked : LineType.checked uuid id b g r x iMax vRated = .ok t) : Built (.lineType t)
  | line {asset : Asset} {nodeA nodeB : Node} {devices : Int} {type : LineType}
      {length : Quantity} {olm : String} {l : Line}
      (operator : Built (.operator asset.operator)) (time : asset.operationTime.Built)
      (hasA : Built (.node nodeA)) (hasB : Built (.node nodeB)) (hasType : Built (.lineType type))
      (checked : Line.checked asset nodeA nodeB devices type length olm = .ok l) : Built (.line l)
  | lineGraphic {uuid : Uuid} {layer : String} {l : Line} (hasLine : Built (.line l)) :
      Built (.lineGraphic ⟨uuid, layer, l⟩)
  | load {asset : Asset} {node : Node} {q : String} {manager : Option EnergyManager}
      {profile : String} {sRated consumption cosPhi : Quantity} {l : Load}
      (operator : Built (.operator asset.operator)) (time : asset.operationTime.Built)
      (hasNode : Built (.node node)) (hasManager : ∀ m, manager = some m → Built (.energyManager m))
      (checked : Load.checked asset node q manager profile sRated consumption cosPhi = .ok l) :
      Built (.load l)
  | energyManager {asset : Asset} {strategy : String} {parent : Option EnergyManager}
      {m : EnergyManager}
      (operator : Built (.operator asset.operator)) (time : asset.operationTime.Built)
      (hasParent : ∀ p, parent = some p → Built (.energyManager p))
      (checked : EnergyManager.checked asset strategy parent = .ok m) : Built (.energyManager m)
  | chpType {uuid : Uuid} {id : String}
      {sRated cosPhi electrical thermal pThermal pOwn : Quantity} {t : ChpType}
      (checked : ChpType.checked uuid id sRated cosPhi electrical thermal pThermal pOwn = .ok t) :
      Built (.chpType t)
  | chp {asset : Asset} {node : Node} {q : String} {type : ChpType} {bus : ThermalBus}
      {storage : CylindricalStorage} {reaction : Bool} {manager : Option EnergyManager} {c : Chp}
      (operator : Built (.operator asset.operator)) (time : asset.operationTime.Built)
      (hasNode : Built (.node node)) (hasType : Built (.chpType type))
      (hasBus : Built (.thermalBus bus)) (hasStorage : Built (.cylindricalStorage storage))
      (hasManager : ∀ m, manager = some m → Built (.energyManager m))
      (checked : Chp.checked asset node q type bus storage reaction manager = .ok c) :
      Built (.chp c)
  | thermalBus {asset : Asset} (operator : Built (.operator asset.operator))
      (time : asset.operationTime.Built) : Built (.thermalBus ⟨asset⟩)
  | cylindricalStorage {asset : Asset} {bus : ThermalBus}
      {volume inlet back capacity power : Quantity} {s : CylindricalStorage}
      (operator : Built (.operator asset.operator)) (time : asset.operationTime.Built)
      (hasBus : Built (.thermalBus bus))
      (checked : CylindricalStorage.checked asset bus volume inlet back capacity power = .ok s) :
      Built (.cylindricalStorage s)
  | nodeResult {uuid : Uuid} {time : Timestamp} {model : Uuid} {vMag vAng : Quantity}
      {r : NodeResult} (checked : NodeResult.checked uuid time model vMag vAng = .ok r) :
      Built (.nodeResult r)
  | loadResult {uuid : Uuid} {time : Timestamp} {model : Uuid} {p q : Quantity}
      {r : LoadResult} (checked : LoadResult.checked uuid time model p q = .ok r) :
      Built (.loadResult r)
  | irradiance {diffuse direct : Quantity} {i : Irradiance}
      (checked : Irradiance.checked diffuse direct = .ok i) : Built (.irradiance i)
  | temperature {q : Quantity} {t : Temperature} (checked : Temperature.checked q = .ok t) :
      Built (.temperature t)
  | wind {direction velocity : Quantity} {w : Wind}
      (checked : Wind.checked direction velocity = .ok w) : Built (.wind w)
  | timeBasedValue {uuid : Uuid} {time : Timestamp} {given payload : Payload}
      (inRange : ∀ w, given = .weather w → w.coordinate.Built)
      (hasIrradiance : ∀ w, given = .weather w → Built (.irradiance w.irradiance))
      (hasTemperature : ∀ w, given = .weather w → Built (.temperature w.temperature))
      (hasWind : ∀ w, given = .weather w → Built (.wind w.wind))
      (checked : given.checked = .ok payload) : Built (.timeBasedValue ⟨uuid, time, payload⟩)

/-! ## What is referred to -/

/-- The only operator with the reserved uuid is the placeholder. -/
theorem Entity.Built.eq_unassigned {o : Operator} (h : Entity.Built (.operator o))
    (reserved : o.isUnassigned = true) : o = .unassigned := by
  cases h with
  | unassigned => rfl
  | operator checked =>
      obtain ⟨free, rfl⟩ := Operator.checked_eq_ok.1 checked
      exact absurd (beq_iff_eq.1 reserved) free

/-- An operated asset of an entity that was built. -/
def Asset.Built (a : Asset) : Prop := Entity.Built (.operator a.operator) ∧ a.operationTime.Built

/-- A window of operation is built again from its own bounds. -/
theorem OperationTime.Built.rebuild {w : OperationTime} (h : w.Built) :
    OperationTime.checked w.start w.finish = .ok w := by
  obtain ⟨start, finish, checked⟩ := h
  have eq := OperationTime.of_checked checked
  subst eq
  exact checked

/-- A position is built again from its own ordinates. -/
theorem GeoPoint.Built.rebuild {p : GeoPoint} (h : p.Built) :
    GeoPoint.ofOrdinates p.lon p.lat = .ok p := by
  obtain ⟨lon, lat, checked⟩ := h
  have eq : p = ⟨lon, lat⟩ := by
    unfold GeoPoint.ofOrdinates at checked
    split at checked
    · cases checked; rfl
    · cases checked
  subst eq
  exact checked

/-! ## Building again -/

namespace Entity.Built

theorem rebuild_operator {o : Operator} (h : Built (.operator o)) (other : o ≠ .unassigned) :
    Operator.checked o.uuid o.id = .ok o := by
  cases h with
  | unassigned => exact absurd rfl other
  | operator checked =>
      obtain ⟨free, rfl⟩ := Operator.checked_eq_ok.1 checked
      exact Operator.checked_eq_ok.2 ⟨free, rfl⟩

theorem rebuild_voltageLevel {v : VoltageLevel} (h : Built (.voltageLevel v)) :
    VoltageLevel.checked v.id v.nominalVoltage = .ok v := by
  cases h with
  | voltageLevel checked => exact VoltageLevel.checked_again checked

theorem rebuild_node {n : Node} (h : Built (.node n)) :
    n.toAsset.Built ∧ (∀ p, n.geoPosition = some p → p.Built) ∧
      Built (.voltageLevel n.voltageLevel) ∧
      Node.checked n.toAsset n.vTarget n.slack n.geoPosition n.voltageLevel n.subnet.toNat =
        .ok n := by
  cases h with
  | node operator time inRange hasLevel checked =>
      have again := Node.checked_again checked
      obtain ⟨_, _, rfl, _, rfl, rfl⟩ := Node.checked_eq_ok.1 checked
      exact ⟨⟨operator, time⟩, inRange, hasLevel, again⟩

theorem rebuild_lineType {t : LineType} (h : Built (.lineType t)) :
    LineType.checked t.uuid t.id t.b t.g t.r t.x t.iMax t.vRated = .ok t := by
  cases h with
  | lineType checked => exact LineType.checked_again checked

theorem rebuild_line {l : Line} (h : Built (.line l)) :
    l.toAsset.Built ∧ Built (.node l.nodeA) ∧ Built (.node l.nodeB) ∧
      Built (.lineType l.lineType) ∧
      Line.checked l.toAsset l.nodeA l.nodeB l.parallelDevices.toNat l.lineType l.length
        l.olmCharacteristic = .ok l := by
  cases h with
  | line operator time hasA hasB hasType checked =>
      have again := Line.checked_again checked
      obtain ⟨_, _, _, _, rfl, rfl, rfl, rfl, _⟩ := Line.checked_eq_ok.1 checked
      exact ⟨⟨operator, time⟩, hasA, hasB, hasType, again⟩

theorem rebuild_load {l : Load} (h : Built (.load l)) :
    l.toAsset.Built ∧ Built (.node l.node) ∧
      (∀ m, l.manager = some m → Built (.energyManager m)) ∧
      Load.checked l.toAsset l.node l.qCharacteristics l.manager l.loadProfile l.sRated
        l.annualConsumption l.cosPhiRated = .ok l := by
  cases h with
  | load operator time hasNode hasManager checked =>
      have again := Load.checked_again checked
      obtain ⟨_, _, _, _, _, rfl, rfl, _, rfl, _⟩ := Load.checked_eq_ok.1 checked
      exact ⟨⟨operator, time⟩, hasNode, hasManager, again⟩

theorem rebuild_energyManager {m : EnergyManager} (h : Built (.energyManager m)) :
    m.toAsset.Built ∧ (∀ p, m.parent? = some p → Built (.energyManager p)) ∧
      EnergyManager.checked m.toAsset m.controlStrategy m.parent? = .ok m := by
  cases h with
  | energyManager operator time hasParent checked =>
      have again := EnergyManager.checked_again checked
      obtain ⟨_, rfl, _, rfl⟩ := EnergyManager.checked_eq_ok.1 checked
      exact ⟨⟨operator, time⟩, hasParent, again⟩

theorem rebuild_chpType {t : ChpType} (h : Built (.chpType t)) :
    ChpType.checked t.uuid t.id t.sRated t.cosPhiRated t.etaElectrical t.etaThermal t.pThermal
      t.pOwn = .ok t := by
  cases h with
  | chpType checked => exact ChpType.checked_again checked

theorem rebuild_chp {c : Chp} (h : Built (.chp c)) :
    c.toAsset.Built ∧ Built (.node c.node) ∧ Built (.chpType c.chpType) ∧
      Built (.thermalBus c.thermalBus) ∧ Built (.cylindricalStorage c.thermalStorage) ∧
      (∀ m, c.manager = some m → Built (.energyManager m)) ∧
      Chp.checked c.toAsset c.node c.qCharacteristics c.chpType c.thermalBus c.thermalStorage
        c.marketReaction c.manager = .ok c := by
  cases h with
  | chp operator time hasNode hasType hasBus hasStorage hasManager checked =>
      have again := Chp.checked_again checked
      obtain ⟨_, rfl, rfl, _, rfl, rfl, rfl, _, rfl⟩ := Chp.checked_eq_ok.1 checked
      exact ⟨⟨operator, time⟩, hasNode, hasType, hasBus, hasStorage, hasManager, again⟩

theorem rebuild_thermalBus {b : ThermalBus} (h : Built (.thermalBus b)) : b.toAsset.Built := by
  cases h with
  | thermalBus operator time => exact ⟨operator, time⟩

theorem rebuild_cylindricalStorage {s : CylindricalStorage} (h : Built (.cylindricalStorage s)) :
    s.toAsset.Built ∧ Built (.thermalBus s.thermalBus) ∧
      CylindricalStorage.checked s.toAsset s.thermalBus s.storageVolume s.inletTemperature
        s.returnTemperature s.heatCapacity s.pThermalMax = .ok s := by
  cases h with
  | cylindricalStorage operator time hasBus checked =>
      have again := CylindricalStorage.checked_again checked
      obtain ⟨_, _, _, _, _, _, _, rfl, rfl⟩ := CylindricalStorage.checked_eq_ok.1 checked
      exact ⟨⟨operator, time⟩, hasBus, again⟩

theorem rebuild_nodeResult {r : NodeResult} (h : Built (.nodeResult r)) :
    NodeResult.checked r.uuid r.time r.inputModel r.vMag r.vAng = .ok r := by
  cases h with
  | nodeResult checked => exact NodeResult.checked_again checked

theorem rebuild_loadResult {r : LoadResult} (h : Built (.loadResult r)) :
    LoadResult.checked r.uuid r.time r.inputModel r.p r.q = .ok r := by
  cases h with
  | loadResult checked => exact LoadResult.checked_again checked

theorem rebuild_irradiance {i : Irradiance} (h : Built (.irradiance i)) :
    Irradiance.checked i.diffuse i.direct = .ok i := by
  cases h with
  | irradiance checked => exact Irradiance.checked_again checked

theorem rebuild_temperature {t : Temperature} (h : Built (.temperature t)) :
    Temperature.checked t.temperature = .ok t := by
  cases h with
  | temperature checked => exact Temperature.checked_again checked

theorem rebuild_wind {w : Wind} (h : Built (.wind w)) :
    Wind.checked w.direction w.velocity = .ok w := by
  cases h with
  | wind checked => exact Wind.checked_again checked

theorem rebuild_timeBasedValue {v : TimeBasedValue} (h : Built (.timeBasedValue v)) :
    v.payload.checked = .ok v.payload ∧ ∀ w, v.payload = .weather w → w.coordinate.Built ∧
      Built (.irradiance w.irradiance) ∧ Built (.temperature w.temperature) ∧
      Built (.wind w.wind) := by
  cases h with
  | timeBasedValue inRange hasIrradiance hasTemperature hasWind checked =>
      refine ⟨Payload.checked_again checked, ?_⟩
      intro w hw
      cases Payload.checked_eq_ok.1 checked <;> cases hw
      exact ⟨inRange w rfl, hasIrradiance w rfl, hasTemperature w rfl, hasWind w rfl⟩

/-! ## What an entity refers to -/

theorem of_mem_managerRelation {m : Option EnergyManager} {x : Entity}
    (h : ∀ p, m = some p → Built (.energyManager p)) (mem : x ∈ (managerRelation m).related) :
    Built x := by
  cases m with
  | none => cases mem
  | some p =>
      rw [List.mem_singleton.1 mem]
      exact h p rfl

/-- **Every entity that an entity refers to was built.** -/
theorem of_mem_relations {e x : Entity} (h : e.Built) {r : Relation} (hr : r ∈ e.relations)
    (hx : x ∈ r.related) : x.Built := by
  cases e <;> simp only [relations, List.mem_cons, List.not_mem_nil, or_false] at hr
  case node n =>
    subst hr
    rw [List.mem_singleton.1 hx]
    exact h.rebuild_node.1.1
  case line l =>
    obtain ⟨asset, hasA, hasB, hasType, _⟩ := h.rebuild_line
    rcases hr with rfl | rfl | rfl <;>
      simp only [List.mem_cons, List.not_mem_nil, or_false] at hx
    · rcases hx with rfl | rfl
      · exact hasA
      · exact hasB
    · exact hx ▸ hasType
    · exact hx ▸ asset.1
  case lineGraphic g =>
    subst hr
    rw [List.mem_singleton.1 hx]
    cases h with
    | lineGraphic hasLine => exact hasLine
  case load l =>
    obtain ⟨asset, hasNode, hasManager, _⟩ := h.rebuild_load
    rcases hr with rfl | rfl | rfl
    · rw [List.mem_singleton.1 hx]; exact hasNode
    · rw [List.mem_singleton.1 hx]; exact asset.1
    · exact of_mem_managerRelation hasManager hx
  case energyManager m =>
    obtain ⟨asset, hasParent, _⟩ := h.rebuild_energyManager
    rcases hr with rfl | rfl
    · rw [List.mem_singleton.1 hx]; exact asset.1
    · exact of_mem_managerRelation hasParent hx
  case chp c =>
    obtain ⟨asset, hasNode, hasType, hasBus, hasStorage, hasManager, _⟩ := h.rebuild_chp
    rcases hr with rfl | rfl | rfl | rfl | rfl | rfl
    case inr.inr.inr.inr.inr => exact of_mem_managerRelation hasManager hx
    all_goals rw [List.mem_singleton.1 hx]
    · exact hasNode
    · exact hasType
    · exact asset.1
    · exact hasBus
    · exact hasStorage
  case thermalBus b =>
    subst hr
    rw [List.mem_singleton.1 hx]
    exact h.rebuild_thermalBus.1
  case cylindricalStorage s =>
    obtain ⟨asset, hasBus, _⟩ := h.rebuild_cylindricalStorage
    rcases hr with rfl | rfl <;> rw [List.mem_singleton.1 hx]
    · exact asset.1
    · exact hasBus

theorem of_mem_dependencies {e x : Entity} (h : e.Built) (hx : x ∈ e.dependencies) : x.Built := by
  obtain ⟨r, hr, hx⟩ := List.mem_flatMap.1 hx
  exact of_mem_relations h hr (Relation.mem_persistable_iff.1 hx).1

end Entity.Built

end GridRecords
