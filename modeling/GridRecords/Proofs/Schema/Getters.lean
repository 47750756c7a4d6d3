/-
# What the getters accept

A getter succeeds on exactly the arguments that stand for what it gives.  Read from right to left
the lemmas say which argument makes a getter give a wanted value, read from left to right they
say what an argument was.
-/
import GridRecords.Proofs.Outcome
import GridRecords.Proofs.Record.Lookup
import GridRecords.Row.Columns
import GridRecords.Schema.Arguments

namespace GridRecords

namespace Arguments

variable {a : Arguments} {name expected : String} {α : Type}

/-- The value of a parameter is what the list binds its name to. -/
theorem get_eq (values : List (String × Value)) (name : String) :
    (Arguments.mk values).get name = (lookupEntry name values).getD .null := by
  unfold get
  congr 1
  induction values with
  | nil => rfl
  | cons b rest ih =>
      unfold get.lookup lookupEntry
      simp only [eq_comm, ih]

/-! ## Narrowing -/

theorem required_eq_ok {pick : Value → Option α} (none : pick .null = none) {x : α} :
    a.required name expected pick = .ok x ↔ pick (a.get name) = some x := by
  unfold required
  cases h : a.get name with
  | null =>
      rw [none]
      simp
  | _ =>
      simp only
      cases pick _ <;> simp

theorem optional_eq_ok {pick : Value → Option α} (none : pick .null = none) {x : Option α} :
    a.optional name expected pick = .ok x ↔
      (a.get name = .null ∧ x = Option.none) ∨ ∃ y, pick (a.get name) = some y ∧ x = some y := by
  have filled : (a.required name expected pick).map some = .ok x ↔
      ∃ y, pick (a.get name) = some y ∧ x = some y := by
    rw [Outcome.exceptMap_eq_ok]
    refine exists_congr fun y => ?_
    rw [required_eq_ok none, eq_comm (a := some y)]
  unfold optional
  cases h : a.get name with
  | null =>
      simp only [Except.ok.injEq, none, true_and, reduceCtorEq, false_and, exists_false, or_false]
      exact eq_comm
  | _ =>
      simp only [reduceCtorEq, false_and, false_or]
      rw [filled, h]

/-! ## Values of one type -/

@[simp] theorem uuid_eq_ok {u : Uuid} : a.uuid name = .ok u ↔ a.get name = .uuid u := by
  unfold uuid
  rw [required_eq_ok rfl]
  cases a.get name <;> simp

@[simp] theorem text_eq_ok {s : String} : a.text name = .ok s ↔ a.get name = .text s := by
  unfold text
  rw [required_eq_ok rfl]
  cases a.get name <;> simp

@[simp] theorem boolean_eq_ok {b : Bool} : a.boolean name = .ok b ↔ a.get name = .bool b := by
  unfold boolean
  rw [required_eq_ok rfl]
  cases a.get name <;> simp

@[simp] theorem integer_eq_ok {n : Int} : a.integer name = .ok n ↔ a.get name = .int n := by
  unfold integer
  rw [required_eq_ok rfl]
  cases a.get name <;> simp

@[simp] theorem quantity_eq_ok {q : Quantity} :
    a.quantity name = .ok q ↔ a.get name = .quantity q := by
  unfold quantity
  rw [required_eq_ok rfl]
  cases a.get name <;> simp

@[simp] theorem timestamp_eq_ok {t : Timestamp} :
    a.timestamp name = .ok t ↔ a.get name = .timestamp t := by
  unfold timestamp
  rw [required_eq_ok rfl]
  cases a.get name <;> simp

@[simp] theorem timestamp?_eq_ok {t : Option Timestamp} :
    a.timestamp? name = .ok t ↔ a.get name = instant t := by
  unfold timestamp?
  rw [optional_eq_ok rfl]
  unfold instant
  cases a.get name <;> cases t <;> simp [Value.ofOption, eq_comm]

/-- Absent text is empty. -/
@[simp] theorem textOrEmpty_eq_ok {s : String} :
    a.textOrEmpty name = .ok s ↔ (a.get name = .null ∧ s = "") ∨ a.get name = .text s := by
  unfold textOrEmpty
  simp only [Outcome.bind_eq_ok, Outcome.pure_eq_ok]
  rw [exists_congr fun x => and_congr_left' (optional_eq_ok rfl)]
  cases a.get name <;> simp [eq_comm]

/-- An absent position is no position. -/
@[simp] theorem geoPoint_eq_ok {p : Option GeoPoint} :
    a.geoPoint name = .ok p ↔ (a.get name = .null ∧ p = none) ∨ a.get name = .geoPoint p := by
  unfold geoPoint
  simp only [Outcome.bind_eq_ok, Outcome.pure_eq_ok]
  rw [exists_congr fun x => and_congr_left' (optional_eq_ok rfl)]
  cases a.get name <;> simp [eq_comm]

/-! ## References -/

/-- A reference is accepted when it is an entity of the wanted kind. -/
theorem reference_eq_ok {pick : Entity → Option α} {make : α → Entity}
    (picks : ∀ e x, pick e = some x ↔ e = make x) {x : α} :
    a.reference name pick = .ok x ↔ a.get name = .entity (make x) := by
  unfold reference
  rw [required_eq_ok rfl]
  cases a.get name <;> simp [picked, picks]

theorem reference?_eq_ok {pick : Entity → Option α} {make : α → Entity}
    (picks : ∀ e x, pick e = some x ↔ e = make x) {x : Option α} :
    a.reference? name pick = .ok x ↔
      a.get name = .ofOption (fun x => .entity (make x)) x := by
  unfold reference?
  rw [optional_eq_ok rfl]
  cases a.get name <;> cases x <;> simp [picked, picks, Value.ofOption]

@[simp] theorem node_eq_ok {n : Node} :
    a.reference name Entity.node? = .ok n ↔ a.get name = .entity (.node n) :=
  reference_eq_ok fun e x => by cases e <;> simp [Entity.node?]

@[simp] theorem voltageLevel_eq_ok {v : VoltageLevel} :
    a.reference name Entity.voltageLevel? = .ok v ↔ a.get name = .entity (.voltageLevel v) :=
  reference_eq_ok fun e x => by cases e <;> simp [Entity.voltageLevel?]

@[simp] theorem lineType_eq_ok {t : LineType} :
    a.reference name Entity.lineType? = .ok t ↔ a.get name = .entity (.lineType t) :=
  reference_eq_ok fun e x => by cases e <;> simp [Entity.lineType?]

@[simp] theorem line_eq_ok {l : Line} :
    a.reference name Entity.line? = .ok l ↔ a.get name = .entity (.line l) :=
  reference_eq_ok fun e x => by cases e <;> simp [Entity.line?]

@[simp] theorem chpType_eq_ok {t : ChpType} :
    a.reference name Entity.chpType? = .ok t ↔ a.get name = .entity (.chpType t) :=
  reference_eq_ok fun e x => by cases e <;> simp [Entity.chpType?]

@[simp] theorem thermalBus_eq_ok {b : ThermalBus} :
    a.reference name Entity.thermalBus? = .ok b ↔ a.get name = .entity (.thermalBus b) :=
  reference_eq_ok fun e x => by cases e <;> simp [Entity.thermalBus?]

@[simp] theorem cylindricalStorage_eq_ok {s : CylindricalStorage} :
    a.reference name Entity.cylindricalStorage? = .ok s ↔
      a.get name = .entity (.cylindricalStorage s) :=
  reference_eq_ok fun e x => by cases e <;> simp [Entity.cylindricalStorage?]

@[simp] theorem irradiance_eq_ok {i : Irradiance} :
    a.reference name Entity.irradiance? = .ok i ↔ a.get name = .entity (.irradiance i) :=
  reference_eq_ok fun e x => by cases e <;> simp [Entity.irradiance?]

@[simp] theorem temperature_eq_ok {t : Temperature} :
    a.reference name Entity.temperature? = .ok t ↔ a.get name = .entity (.temperature t) :=
  reference_eq_ok fun e x => by cases e <;> simp [Entity.temperature?]

@[simp] theorem wind_eq_ok {w : Wind} :
    a.reference name Entity.wind? = .ok w ↔ a.get name = .entity (.wind w) :=
  reference_eq_ok fun e x => by cases e <;> simp [Entity.wind?]

@[simp] theorem manager_eq_ok {m : Option EnergyManager} :
    a.reference? name Entity.energyManager? = .ok m ↔ a.get name = managerValue m :=
  reference?_eq_ok fun e x => by cases e <;> simp [Entity.energyManager?]

/-- An absent operator is the placeholder. -/
@[simp] theorem operator_eq_ok {o : Operator} :
    a.operator = .ok o ↔ (a.get "operator" = .null ∧ o = .unassigned) ∨
      a.get "operator" = .entity (.operator o) := by
  have picks : ∀ (e : Entity) (x : Operator), e.operator? = some x ↔ e = .operator x := by
    intro e x
    cases e <;> simp [Entity.operator?]
  unfold operator
  simp only [Outcome.bind_eq_ok, Outcome.pure_eq_ok, reference?_eq_ok picks]
  constructor
  · rintro ⟨x, h, rfl⟩
    cases x with
    | none => exact .inl ⟨h, rfl⟩
    | some x => exact .inr h
  · rintro (⟨h, rfl⟩ | h)
    · exact ⟨none, h, rfl⟩
    · exact ⟨some o, h, rfl⟩

/-! ## Parts of several arguments -/

@[simp] theorem checked_eq_ok {r : Except Violation α} {x : α} :
    Build.checked r = .ok x ↔ r = .ok x :=
  Outcome.mapError_eq_ok

@[simp] theorem operationTime_eq_ok {w : OperationTime} :
    a.operationTime = .ok w ↔ ∃ start finish, a.get "operatesfrom" = instant start ∧
      a.get "operatesuntil" = instant finish ∧ OperationTime.checked start finish = .ok w := by
  unfold operationTime
  simp only [Outcome.bind_eq_ok, timestamp?_eq_ok, checked_eq_ok]
  constructor
  · rintro ⟨start, hs, finish, hf, h⟩
    exact ⟨start, finish, hs, hf, h⟩
  · rintro ⟨start, finish, hs, hf, h⟩
    exact ⟨start, hs, finish, hf, h⟩

/-- The parts of an operated asset. -/
@[simp] theorem asset_eq_ok {x : Asset} :
    a.asset = .ok x ↔ a.get "uuid" = .uuid x.uuid ∧ a.get "id" = .text x.id ∧
      a.operator = .ok x.operator ∧ a.operationTime = .ok x.operationTime := by
  unfold asset
  simp only [Outcome.bind_eq_ok, Outcome.pure_eq_ok, uuid_eq_ok, text_eq_ok]
  constructor
  · rintro ⟨uuid, hu, id, hi, operator, ho, time, ht, rfl⟩
    exact ⟨hu, hi, ho, ht⟩
  · rintro ⟨hu, hi, ho, ht⟩
    exact ⟨_, hu, _, hi, _, ho, _, ht, rfl⟩

end Arguments

end GridRecords
