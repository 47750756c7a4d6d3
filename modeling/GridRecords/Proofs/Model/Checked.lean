/-
# What the constructors accept

One lemma for each checked constructor: it gives an entity exactly when the quantities can be
held in their units, the rules of the domain are kept, and the parts of the entity are those
that were given.  Read from left to right the lemmas invert a construction; read from right to
left they repeat it, since a quantity in its own unit is held unchanged (`Quantity.convert_self`).
So each constructor accepts again what it gave (`checked_again`).
-/
import GridRecords.Model.Entity
import GridRecords.Proofs.Outcome

namespace GridRecords

/-- In its own unit a quantity is unchanged. -/
theorem Quantity.convert_self {q : Quantity} {unit : MeasureUnit} (h : q.unit = unit) :
    q.convert unit = .ok q := by
  unfold convert
  rw [if_pos h]

/-! ## The shared checks -/

/-- A number from zero on: not below zero, not infinite and not undefined. -/
abbrev FromZero (x : Float) : Prop := ¬ (x < 0.0 ∨ ¬ x.isFinite)

/-- A quantity expressed in a unit. -/
abbrev HeldAs (given : Quantity) (unit : MeasureUnit) (held : Quantity) : Prop :=
  given.convert unit = .ok held

@[simp] theorem heldIn_eq_ok {what : String} {q held : Quantity} {unit : MeasureUnit} :
    heldIn what q unit = .ok held ↔ HeldAs q unit held :=
  Outcome.mapError_eq_ok

@[simp] theorem atLeastZero_eq_ok {what : String} {x : Float} {u : PUnit} :
    atLeastZero what x = .ok u ↔ FromZero x := by
  unfold atLeastZero
  split
  · rename_i bad
    refine iff_of_false ?_ fun good => good bad
    intro h
    cases h
  · rename_i good
    exact iff_of_true rfl good

/-- A step that gives nothing but may fail. -/
theorem exists_punit {p : PUnit → Prop} : (∃ u, p u) ↔ p PUnit.unit :=
  ⟨fun ⟨_, h⟩ => h, fun h => ⟨_, h⟩⟩

@[simp] theorem powerFactor_eq_ok {q held : Quantity} :
    powerFactor q = .ok held ↔
      HeldAs q .perUnit held ∧ 0.0 ≤ held.value ∧ held.value ≤ 1.0 := by
  unfold powerFactor
  simp only [Outcome.bind_eq_ok, heldIn_eq_ok]
  constructor
  · rintro ⟨x, hx, h⟩
    split at h
    · rename_i range
      rw [Outcome.pure_eq_ok] at h
      subst h
      exact ⟨hx, range⟩
    · exact absurd h Outcome.throw_ne_ok
  · rintro ⟨hx, range⟩
    refine ⟨held, hx, ?_⟩
    rw [if_pos range]
    rfl

/-- A whole number of thirty-two bits is the number of its word. -/
theorem word?_eq_some {n : Int} {w : UInt32} : word? n = some w ↔ n = w.toNat := by
  unfold word?
  constructor
  · intro h
    split at h
    · rename_i range
      cases h
      have small : n.toNat < UInt32.size := by
        show n.toNat < 2 ^ 32
        omega
      rw [UInt32.toNat_ofNat_of_lt' small]
      omega
    · cases h
  · rintro rfl
    have small := w.toNat_lt
    rw [if_pos (by omega)]
    simp

/-! ## Operators and operation times -/

theorem Operator.checked_eq_ok {uuid : Uuid} {id : String} {o : Operator} :
    Operator.checked uuid id = .ok o ↔ uuid ≠ reservedUuid ∧ o = ⟨uuid, id⟩ := by
  unfold Operator.checked
  split
  · rename_i reserved
    simp [reserved]
  · rename_i free
    simp [free, eq_comm]

/-- A window of operation holds the bounds that it was given. -/
theorem OperationTime.of_checked {start finish : Option Timestamp} {w : OperationTime}
    (h : OperationTime.checked start finish = .ok w) : w = ⟨start, finish⟩ := by
  unfold OperationTime.checked at h
  cases start <;> cases finish <;> simp only at h
  case some.some s f =>
    split at h
    · cases h
    · cases h; rfl
  all_goals cases h; rfl

/-! ## The electrical network -/

theorem VoltageLevel.checked_eq_ok {id : String} {q : Quantity} {v : VoltageLevel} :
    VoltageLevel.checked id q = .ok v ↔
      HeldAs q .kilovolt v.nominalVoltage ∧ FromZero v.nominalVoltage.value ∧ v.id = id := by
  unfold VoltageLevel.checked
  simp only [Outcome.bind_eq_ok, heldIn_eq_ok, atLeastZero_eq_ok, exists_punit,
    Outcome.pure_eq_ok]
  constructor
  · rintro ⟨_, hq, zero, rfl⟩
    exact ⟨hq, zero, rfl⟩
  · rintro ⟨hq, zero, rfl⟩
    exact ⟨_, hq, zero, rfl⟩

theorem Node.checked_eq_ok {asset : Asset} {vTarget : Quantity} {slack : Bool}
    {position : Option GeoPoint} {level : VoltageLevel} {subnet : Int} {n : Node} :
    Node.checked asset vTarget slack position level subnet = .ok n ↔
      HeldAs vTarget .perUnit n.vTarget ∧ subnet = n.subnet.toNat ∧ n.toAsset = asset ∧
      n.slack = slack ∧ n.geoPosition = position ∧ n.voltageLevel = level := by
  unfold Node.checked
  simp only [Outcome.bind_eq_ok, heldIn_eq_ok]
  constructor
  · rintro ⟨v, hv, h⟩
    cases word : word? subnet with
    | none => rw [word] at h; exact absurd h Outcome.throw_ne_ok
    | some w =>
        rw [word] at h
        cases h
        exact ⟨hv, word?_eq_some.1 word, rfl, rfl, rfl, rfl⟩
  · rintro ⟨hv, number, rfl, rfl, rfl, rfl⟩
    refine ⟨_, hv, ?_⟩
    rw [word?_eq_some.2 number]
    rfl

theorem LineType.checked_eq_ok {uuid : Uuid} {id : String} {b g r x iMax vRated : Quantity}
    {t : LineType} :
    LineType.checked uuid id b g r x iMax vRated = .ok t ↔
      HeldAs b .microsiemensPerKilometre t.b ∧ HeldAs g .microsiemensPerKilometre t.g ∧
      HeldAs r .ohmPerKilometre t.r ∧ HeldAs x .ohmPerKilometre t.x ∧
      HeldAs iMax .ampere t.iMax ∧ HeldAs vRated .kilovolt t.vRated ∧
      (FromZero t.b.value ∧ FromZero t.g.value ∧ FromZero t.r.value ∧ FromZero t.x.value ∧
        FromZero t.iMax.value) ∧
      t.uuid = uuid ∧ t.id = id := by
  unfold LineType.checked
  simp only [Outcome.bind_eq_ok, heldIn_eq_ok, atLeastZero_eq_ok, exists_punit,
    Outcome.pure_eq_ok]
  constructor
  · rintro ⟨_, hb, _, hg, _, hr, _, hx, _, hi, _, hv, zb, zg, zr, zx, zi, rfl⟩
    exact ⟨hb, hg, hr, hx, hi, hv, ⟨zb, zg, zr, zx, zi⟩, rfl, rfl⟩
  · rintro ⟨hb, hg, hr, hx, hi, hv, ⟨zb, zg, zr, zx, zi⟩, rfl, rfl⟩
    exact ⟨_, hb, _, hg, _, hr, _, hx, _, hi, _, hv, zb, zg, zr, zx, zi, rfl⟩

theorem Line.checked_eq_ok {asset : Asset} {nodeA nodeB : Node} {devices : Int}
    {lineType : LineType} {length : Quantity} {olm : String} {l : Line} :
    Line.checked asset nodeA nodeB devices lineType length olm = .ok l ↔
      HeldAs length .kilometre l.length ∧ FromZero l.length.value ∧
      devices = l.parallelDevices.toNat ∧ l.parallelDevices ≠ 0 ∧ l.toAsset = asset ∧
      l.nodeA = nodeA ∧ l.nodeB = nodeB ∧ l.lineType = lineType ∧ l.olmCharacteristic = olm := by
  unfold Line.checked
  constructor
  · intro h
    cases word : word? devices with
    | none => rw [word] at h; exact absurd h Outcome.throw_ne_ok
    | some w =>
        rw [word] at h
        simp only at h
        by_cases none : w = 0
        · rw [if_pos none] at h
          simp only [Outcome.bind_eq_ok] at h
          obtain ⟨_, h, _⟩ := h
          exact absurd h Outcome.throw_ne_ok
        · rw [if_neg none] at h
          simp only [Outcome.bind_eq_ok, Outcome.pure_eq_ok, heldIn_eq_ok, atLeastZero_eq_ok,
            exists_punit] at h
          obtain ⟨_, hl, zero, rfl⟩ := h
          exact ⟨hl, zero, word?_eq_some.1 word, none, rfl, rfl, rfl, rfl, rfl⟩
  · rintro ⟨hl, zero, number, some', rfl, rfl, rfl, rfl, rfl⟩
    rw [word?_eq_some.2 number]
    simp only [if_neg some', Outcome.bind_eq_ok, Outcome.pure_eq_ok, heldIn_eq_ok,
      atLeastZero_eq_ok, exists_punit]
    exact ⟨_, hl, zero, rfl⟩

/-! ## Participants -/

theorem EnergyManager.checked_eq_ok {asset : Asset} {strategy : String}
    {parent : Option EnergyManager} {m : EnergyManager} :
    EnergyManager.checked asset strategy parent = .ok m ↔
      (∀ p, parent = some p → p.uuid ≠ asset.uuid) ∧ m.toAsset = asset ∧
      m.controlStrategy = strategy ∧ m.parent? = parent := by
  constructor
  · intro h
    refine ⟨?_, ?_, ?_, parent?_of_checked h⟩ <;> unfold EnergyManager.checked at h <;>
      cases parent with
      | none => cases h; first | rfl | (intro p hp; cases hp)
      | some q =>
          simp only at h
          split at h <;> cases h
          first | rfl | (intro p hp; cases hp; assumption)
  · rintro ⟨other, rfl, rfl, rfl⟩
    obtain ⟨unit, ancestors⟩ := m
    cases ancestors with
    | nil => rfl
    | cons p above =>
        have ne : p.uuid ≠ unit.uuid := other _ rfl
        show (if p.uuid = unit.uuid then _ else _) = _
        rw [if_neg ne]

theorem Load.checked_eq_ok {asset : Asset} {node : Node} {q : String}
    {manager : Option EnergyManager} {profile : String}
    {sRated consumption cosPhi : Quantity} {l : Load} :
    Load.checked asset node q manager profile sRated consumption cosPhi = .ok l ↔
      HeldAs sRated .kilovoltAmpere l.sRated ∧
      HeldAs consumption .kilowattHour l.annualConsumption ∧
      FromZero l.sRated.value ∧ FromZero l.annualConsumption.value ∧
      powerFactor cosPhi = .ok l.cosPhiRated ∧ l.toAsset = asset ∧ l.node = node ∧
      l.qCharacteristics = q ∧ l.manager = manager ∧ l.loadProfile = profile := by
  unfold Load.checked
  simp only [Outcome.bind_eq_ok, heldIn_eq_ok, atLeastZero_eq_ok, exists_punit,
    Outcome.pure_eq_ok]
  constructor
  · rintro ⟨_, hs, _, ha, zs, za, _, hc, rfl⟩
    exact ⟨hs, ha, zs, za, hc, rfl, rfl, rfl, rfl, rfl⟩
  · rintro ⟨hs, ha, zs, za, hc, rfl, rfl, rfl, rfl, rfl⟩
    exact ⟨_, hs, _, ha, zs, za, _, hc, rfl⟩

theorem ChpType.checked_eq_ok {uuid : Uuid} {id : String}
    {sRated cosPhi electrical thermal pThermal pOwn : Quantity} {t : ChpType} :
    ChpType.checked uuid id sRated cosPhi electrical thermal pThermal pOwn = .ok t ↔
      HeldAs sRated .kilovoltAmpere t.sRated ∧ HeldAs electrical .percent t.etaElectrical ∧
      HeldAs thermal .percent t.etaThermal ∧ HeldAs pThermal .kilowatt t.pThermal ∧
      HeldAs pOwn .kilowatt t.pOwn ∧
      ¬ 100.0 < t.etaElectrical.value + t.etaThermal.value ∧
      powerFactor cosPhi = .ok t.cosPhiRated ∧ t.uuid = uuid ∧ t.id = id := by
  unfold ChpType.checked
  simp only [Outcome.bind_eq_ok, heldIn_eq_ok]
  constructor
  · rintro ⟨_, hs, e, he, th, ht, _, hp, _, ho, h⟩
    by_cases excess : 100.0 < e.value + th.value
    · rw [if_pos excess] at h
      simp only [Outcome.bind_eq_ok] at h
      obtain ⟨_, h, _⟩ := h
      exact absurd h Outcome.throw_ne_ok
    · rw [if_neg excess] at h
      simp only [Outcome.bind_eq_ok, Outcome.pure_eq_ok] at h
      obtain ⟨_, hc, rfl⟩ := h
      exact ⟨hs, he, ht, hp, ho, excess, hc, rfl, rfl⟩
  · rintro ⟨hs, he, ht, hp, ho, within, hc, rfl, rfl⟩
    refine ⟨_, hs, _, he, _, ht, _, hp, _, ho, ?_⟩
    rw [if_neg within]
    simp only [Outcome.bind_eq_ok, Outcome.pure_eq_ok]
    exact ⟨_, hc, rfl⟩

theorem Chp.checked_eq_ok {asset : Asset} {node : Node} {q : String} {chpType : ChpType}
    {bus : ThermalBus} {storage : CylindricalStorage} {reaction : Bool}
    {manager : Option EnergyManager} {c : Chp} :
    Chp.checked asset node q chpType bus storage reaction manager = .ok c ↔
      c.thermalStorage.thermalBus.uuid = c.thermalBus.uuid ∧ c.toAsset = asset ∧
      c.node = node ∧ c.qCharacteristics = q ∧ c.chpType = chpType ∧ c.thermalBus = bus ∧
      c.thermalStorage = storage ∧ c.marketReaction = reaction ∧ c.manager = manager := by
  unfold Chp.checked
  constructor
  · intro h
    split at h <;> cases h
    rename_i same
    exact ⟨same, rfl, rfl, rfl, rfl, rfl, rfl, rfl, rfl⟩
  · rintro ⟨same, rfl, rfl, rfl, rfl, rfl, rfl, rfl, rfl⟩
    rw [if_pos same]

/-! ## The heat side -/

theorem CylindricalStorage.checked_eq_ok {asset : Asset} {bus : ThermalBus}
    {volume inlet back capacity power : Quantity} {s : CylindricalStorage} :
    CylindricalStorage.checked asset bus volume inlet back capacity power = .ok s ↔
      HeldAs volume .cubicMetre s.storageVolume ∧ HeldAs inlet .celsius s.inletTemperature ∧
      HeldAs back .celsius s.returnTemperature ∧
      HeldAs capacity .kilowattHourPerKelvinCubicMetre s.heatCapacity ∧
      HeldAs power .kilowatt s.pThermalMax ∧
      (FromZero s.storageVolume.value ∧ FromZero s.heatCapacity.value ∧
        FromZero s.pThermalMax.value) ∧
      ¬ s.inletTemperature.value < s.returnTemperature.value ∧ s.toAsset = asset ∧
      s.thermalBus = bus := by
  unfold CylindricalStorage.checked
  simp only [Outcome.bind_eq_ok, heldIn_eq_ok, atLeastZero_eq_ok, exists_punit]
  constructor
  · rintro ⟨_, hv, i, hi, b, hb, _, hc, _, hp, zv, zc, zp, h⟩
    by_cases warm : i.value < b.value
    · rw [if_pos warm] at h
      simp only [Outcome.bind_eq_ok] at h
      obtain ⟨_, h, _⟩ := h
      exact absurd h Outcome.throw_ne_ok
    · rw [if_neg warm] at h
      cases h
      exact ⟨hv, hi, hb, hc, hp, ⟨zv, zc, zp⟩, warm, rfl, rfl⟩
  · rintro ⟨hv, hi, hb, hc, hp, ⟨zv, zc, zp⟩, cold, rfl, rfl⟩
    refine ⟨_, hv, _, hi, _, hb, _, hc, _, hp, zv, zc, zp, ?_⟩
    rw [if_neg cold]
    rfl

/-! ## Results and weather -/

theorem NodeResult.checked_eq_ok {uuid : Uuid} {time : Timestamp} {model : Uuid}
    {vMag vAng : Quantity} {r : NodeResult} :
    NodeResult.checked uuid time model vMag vAng = .ok r ↔
      HeldAs vMag .perUnit r.vMag ∧ HeldAs vAng .degree r.vAng ∧ r.uuid = uuid ∧
      r.time = time ∧ r.inputModel = model := by
  unfold NodeResult.checked
  simp only [Outcome.bind_eq_ok, heldIn_eq_ok, Outcome.pure_eq_ok]
  constructor
  · rintro ⟨_, hm, _, ha, rfl⟩
    exact ⟨hm, ha, rfl, rfl, rfl⟩
  · rintro ⟨hm, ha, rfl, rfl, rfl⟩
    exact ⟨_, hm, _, ha, rfl⟩

theorem LoadResult.checked_eq_ok {uuid : Uuid} {time : Timestamp} {model : Uuid}
    {p q : Quantity} {r : LoadResult} :
    LoadResult.checked uuid time model p q = .ok r ↔
      HeldAs p .megawatt r.p ∧ HeldAs q .megavar r.q ∧ r.uuid = uuid ∧ r.time = time ∧
      r.inputModel = model := by
  unfold LoadResult.checked
  simp only [Outcome.bind_eq_ok, heldIn_eq_ok, Outcome.pure_eq_ok]
  constructor
  · rintro ⟨_, hp, _, hq, rfl⟩
    exact ⟨hp, hq, rfl, rfl, rfl⟩
  · rintro ⟨hp, hq, rfl, rfl, rfl⟩
    exact ⟨_, hp, _, hq, rfl⟩

theorem Irradiance.checked_eq_ok {diffuse direct : Quantity} {i : Irradiance} :
    Irradiance.checked diffuse direct = .ok i ↔
      HeldAs diffuse .wattPerSquareMetre i.diffuse ∧
      HeldAs direct .wattPerSquareMetre i.direct ∧
      FromZero i.diffuse.value ∧ FromZero i.direct.value := by
  unfold Irradiance.checked
  simp only [Outcome.bind_eq_ok, heldIn_eq_ok, atLeastZero_eq_ok, exists_punit,
    Outcome.pure_eq_ok]
  constructor
  · rintro ⟨_, hf, _, hr, zf, zr, rfl⟩
    exact ⟨hf, hr, zf, zr⟩
  · rintro ⟨hf, hr, zf, zr⟩
    exact ⟨_, hf, _, hr, zf, zr, rfl⟩

theorem Temperature.checked_eq_ok {q : Quantity} {t : Temperature} :
    Temperature.checked q = .ok t ↔
      HeldAs q .kelvin t.temperature ∧ FromZero t.temperature.value := by
  unfold Temperature.checked
  simp only [Outcome.bind_eq_ok, heldIn_eq_ok, atLeastZero_eq_ok, exists_punit,
    Outcome.pure_eq_ok]
  constructor
  · rintro ⟨_, hq, zero, rfl⟩
    exact ⟨hq, zero⟩
  · rintro ⟨hq, zero⟩
    exact ⟨_, hq, zero, rfl⟩

theorem Wind.checked_eq_ok {direction velocity : Quantity} {w : Wind} :
    Wind.checked direction velocity = .ok w ↔
      HeldAs direction .degree w.direction ∧ HeldAs velocity .metrePerSecond w.velocity ∧
      FromZero w.velocity.value := by
  unfold Wind.checked
  simp only [Outcome.bind_eq_ok, heldIn_eq_ok, atLeastZero_eq_ok, exists_punit,
    Outcome.pure_eq_ok]
  constructor
  · rintro ⟨_, hd, _, hv, zero, rfl⟩
    exact ⟨hd, hv, zero⟩
  · rintro ⟨hd, hv, zero⟩
    exact ⟨_, hd, _, hv, zero, rfl⟩

/-- A payload with the same payload held in the units of its family. -/
inductive Payload.Held : Payload → Payload → Prop
  | energyPrice {price held : Quantity} (h : HeldAs price .euroPerMegawattHour held) :
      Held (.energyPrice price) (.energyPrice held)
  | activePower {p held : Quantity} (h : HeldAs p .kilowatt held) :
      Held (.activePower p) (.activePower held)
  | apparentPower {p heldP q heldQ : Quantity} (hp : HeldAs p .kilowatt heldP)
      (hq : HeldAs q .kilovar heldQ) : Held (.apparentPower p q) (.apparentPower heldP heldQ)
  | heatDemand {heat held : Quantity} (h : HeldAs heat .kilowatt held) :
      Held (.heatDemand heat) (.heatDemand held)
  | activePowerAndHeat {p heldP heat held : Quantity} (hp : HeldAs p .kilowatt heldP)
      (hh : HeldAs heat .kilowatt held) :
      Held (.activePowerAndHeat p heat) (.activePowerAndHeat heldP held)
  | apparentPowerAndHeat {p heldP q heldQ heat held : Quantity} (hp : HeldAs p .kilowatt heldP)
      (hq : HeldAs q .kilovar heldQ) (hh : HeldAs heat .kilowatt held) :
      Held (.apparentPowerAndHeat p q heat) (.apparentPowerAndHeat heldP heldQ held)
  | weather (w : Weather) : Held (.weather w) (.weather w)

theorem Payload.checked_eq_ok {given payload : Payload} :
    given.checked = .ok payload ↔ given.Held payload := by
  constructor
  · intro h
    unfold checked at h
    cases given <;> simp only [checked.active, checked.reactive, checked.demand,
      Outcome.map_eq_ok, Outcome.bind_eq_ok, Outcome.pure_eq_ok, heldIn_eq_ok,
      Except.ok.injEq] at h
    case energyPrice => obtain ⟨_, h, rfl⟩ := h; exact .energyPrice h
    case activePower => obtain ⟨_, h, rfl⟩ := h; exact .activePower h
    case apparentPower => obtain ⟨_, hp, _, hq, rfl⟩ := h; exact .apparentPower hp hq
    case heatDemand => obtain ⟨_, h, rfl⟩ := h; exact .heatDemand h
    case activePowerAndHeat =>
      obtain ⟨_, hp, _, hh, rfl⟩ := h
      exact .activePowerAndHeat hp hh
    case apparentPowerAndHeat =>
      obtain ⟨_, hp, _, hq, _, hh, rfl⟩ := h
      exact .apparentPowerAndHeat hp hq hh
    case weather w => subst h; exact .weather w
  · intro h
    unfold checked
    cases h <;> simp only [checked.active, checked.reactive, checked.demand,
      Outcome.map_eq_ok, Outcome.bind_eq_ok, Outcome.pure_eq_ok, heldIn_eq_ok]
    case energyPrice h | activePower h | heatDemand h => exact ⟨_, h, rfl⟩
    case apparentPower hp hq => exact ⟨_, hp, _, hq, rfl⟩
    case activePowerAndHeat hp hh => exact ⟨_, hp, _, hh, rfl⟩
    case apparentPowerAndHeat hp hq hh => exact ⟨_, hp, _, hq, _, hh, rfl⟩

/-! ## The same again

A quantity that was expressed in its unit is in that unit, so expressing it again changes
nothing, and the rules that were checked are about the quantities as they are held.  So a
constructor that gave something gives it from its own parts as well. -/

theorem HeldAs.again {given held : Quantity} {unit : MeasureUnit} (h : HeldAs given unit held) :
    HeldAs held unit held :=
  Quantity.convert_self (Quantity.unit_of_convert h)

theorem powerFactor_again {given held : Quantity} (h : powerFactor given = .ok held) :
    powerFactor held = .ok held := by
  obtain ⟨unit, range⟩ := powerFactor_eq_ok.1 h
  exact powerFactor_eq_ok.2 ⟨unit.again, range⟩

theorem VoltageLevel.checked_again {id : String} {q : Quantity} {v : VoltageLevel}
    (h : VoltageLevel.checked id q = .ok v) :
    VoltageLevel.checked v.id v.nominalVoltage = .ok v := by
  obtain ⟨nominal, zero, _⟩ := checked_eq_ok.1 h
  exact checked_eq_ok.2 ⟨nominal.again, zero, rfl⟩

theorem Node.checked_again {asset : Asset} {vTarget : Quantity} {slack : Bool}
    {position : Option GeoPoint} {level : VoltageLevel} {subnet : Int} {n : Node}
    (h : Node.checked asset vTarget slack position level subnet = .ok n) :
    Node.checked n.toAsset n.vTarget n.slack n.geoPosition n.voltageLevel n.subnet.toNat =
      .ok n := by
  obtain ⟨target, _⟩ := checked_eq_ok.1 h
  exact checked_eq_ok.2 ⟨target.again, rfl, rfl, rfl, rfl, rfl⟩

theorem LineType.checked_again {uuid : Uuid} {id : String} {b g r x iMax vRated : Quantity}
    {t : LineType} (h : LineType.checked uuid id b g r x iMax vRated = .ok t) :
    LineType.checked t.uuid t.id t.b t.g t.r t.x t.iMax t.vRated = .ok t := by
  obtain ⟨b, g, r, x, i, v, zeros, _⟩ := checked_eq_ok.1 h
  exact checked_eq_ok.2
    ⟨b.again, g.again, r.again, x.again, i.again, v.again, zeros, rfl, rfl⟩

theorem Line.checked_again {asset : Asset} {nodeA nodeB : Node} {devices : Int}
    {type : LineType} {length : Quantity} {olm : String} {l : Line}
    (h : Line.checked asset nodeA nodeB devices type length olm = .ok l) :
    Line.checked l.toAsset l.nodeA l.nodeB l.parallelDevices.toNat l.lineType l.length
      l.olmCharacteristic = .ok l := by
  obtain ⟨length, zero, _, some', _⟩ := checked_eq_ok.1 h
  exact checked_eq_ok.2 ⟨length.again, zero, rfl, some', rfl, rfl, rfl, rfl, rfl⟩

theorem EnergyManager.checked_again {asset : Asset} {strategy : String}
    {parent : Option EnergyManager} {m : EnergyManager}
    (h : EnergyManager.checked asset strategy parent = .ok m) :
    EnergyManager.checked m.toAsset m.controlStrategy m.parent? = .ok m := by
  obtain ⟨others, rfl, _, rfl⟩ := checked_eq_ok.1 h
  exact checked_eq_ok.2 ⟨others, rfl, rfl, rfl⟩

theorem Load.checked_again {asset : Asset} {node : Node} {q : String}
    {manager : Option EnergyManager} {profile : String} {sRated consumption cosPhi : Quantity}
    {l : Load}
    (h : Load.checked asset node q manager profile sRated consumption cosPhi = .ok l) :
    Load.checked l.toAsset l.node l.qCharacteristics l.manager l.loadProfile l.sRated
      l.annualConsumption l.cosPhiRated = .ok l := by
  obtain ⟨rated, annual, zr, za, factor, _⟩ := checked_eq_ok.1 h
  exact checked_eq_ok.2
    ⟨rated.again, annual.again, zr, za, powerFactor_again factor, rfl, rfl, rfl, rfl, rfl⟩

theorem ChpType.checked_again {uuid : Uuid} {id : String}
    {sRated cosPhi electrical thermal pThermal pOwn : Quantity} {t : ChpType}
    (h : ChpType.checked uuid id sRated cosPhi electrical thermal pThermal pOwn = .ok t) :
    ChpType.checked t.uuid t.id t.sRated t.cosPhiRated t.etaElectrical t.etaThermal t.pThermal
      t.pOwn = .ok t := by
  obtain ⟨s, e, th, p, o, within, factor, _⟩ := checked_eq_ok.1 h
  exact checked_eq_ok.2 ⟨s.again, e.again, th.again, p.again, o.again, within,
    powerFactor_again factor, rfl, rfl⟩

theorem Chp.checked_again {asset : Asset} {node : Node} {q : String} {type : ChpType}
    {bus : ThermalBus} {storage : CylindricalStorage} {reaction : Bool}
    {manager : Option EnergyManager} {c : Chp}
    (h : Chp.checked asset node q type bus storage reaction manager = .ok c) :
    Chp.checked c.toAsset c.node c.qCharacteristics c.chpType c.thermalBus c.thermalStorage
      c.marketReaction c.manager = .ok c := by
  obtain ⟨same, _⟩ := checked_eq_ok.1 h
  exact checked_eq_ok.2 ⟨same, rfl, rfl, rfl, rfl, rfl, rfl, rfl, rfl⟩

theorem CylindricalStorage.checked_again {asset : Asset} {bus : ThermalBus}
    {volume inlet back capacity power : Quantity} {s : CylindricalStorage}
    (h : CylindricalStorage.checked asset bus volume inlet back capacity power = .ok s) :
    CylindricalStorage.checked s.toAsset s.thermalBus s.storageVolume s.inletTemperature
      s.returnTemperature s.heatCapacity s.pThermalMax = .ok s := by
  obtain ⟨v, i, b, c, p, zeros, cold, _⟩ := checked_eq_ok.1 h
  exact checked_eq_ok.2
    ⟨v.again, i.again, b.again, c.again, p.again, zeros, cold, rfl, rfl⟩

theorem NodeResult.checked_again {uuid : Uuid} {time : Timestamp} {model : Uuid}
    {vMag vAng : Quantity} {r : NodeResult}
    (h : NodeResult.checked uuid time model vMag vAng = .ok r) :
    NodeResult.checked r.uuid r.time r.inputModel r.vMag r.vAng = .ok r := by
  obtain ⟨m, a, _⟩ := checked_eq_ok.1 h
  exact checked_eq_ok.2 ⟨m.again, a.again, rfl, rfl, rfl⟩

theorem LoadResult.checked_again {uuid : Uuid} {time : Timestamp} {model : Uuid}
    {p q : Quantity} {r : LoadResult} (h : LoadResult.checked uuid time model p q = .ok r) :
    LoadResult.checked r.uuid r.time r.inputModel r.p r.q = .ok r := by
  obtain ⟨p, q, _⟩ := checked_eq_ok.1 h
  exact checked_eq_ok.2 ⟨p.again, q.again, rfl, rfl, rfl⟩

theorem Irradiance.checked_again {diffuse direct : Quantity} {i : Irradiance}
    (h : Irradiance.checked diffuse direct = .ok i) :
    Irradiance.checked i.diffuse i.direct = .ok i := by
  obtain ⟨f, d, zeros⟩ := checked_eq_ok.1 h
  exact checked_eq_ok.2 ⟨f.again, d.again, zeros⟩

theorem Temperature.checked_again {q : Quantity} {t : Temperature}
    (h : Temperature.checked q = .ok t) : Temperature.checked t.temperature = .ok t := by
  obtain ⟨q, zero⟩ := checked_eq_ok.1 h
  exact checked_eq_ok.2 ⟨q.again, zero⟩

theorem Wind.checked_again {direction velocity : Quantity} {w : Wind}
    (h : Wind.checked direction velocity = .ok w) :
    Wind.checked w.direction w.velocity = .ok w := by
  obtain ⟨d, v, zero⟩ := checked_eq_ok.1 h
  exact checked_eq_ok.2 ⟨d.again, v.again, zero⟩

theorem Payload.checked_again {given payload : Payload} (h : given.checked = .ok payload) :
    payload.checked = .ok payload := by
  refine checked_eq_ok.2 ?_
  have held := checked_eq_ok.1 h
  clear h
  cases held with
  | energyPrice h => exact .energyPrice h.again
  | activePower h => exact .activePower h.again
  | apparentPower hp hq => exact .apparentPower hp.again hq.again
  | heatDemand h => exact .heatDemand h.again
  | activePowerAndHeat hp hh => exact .activePowerAndHeat hp.again hh.again
  | apparentPowerAndHeat hp hq hh => exact .apparentPowerAndHeat hp.again hq.again hh.again
  | weather w => exact .weather w

end GridRecords
