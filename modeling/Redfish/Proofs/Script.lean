import Redfish.Proofs.Simulation

/-!
# What a program does with a service

A program makes one operation after the other. Which one comes next, and with what resource, depends on
the results so far: what is edited in a resource is a matter of the program alone.
-/

namespace Redfish

inductive Route : Type → Type → Type
  | chassis : Route ServiceRoot Chassis
  | systems : Route ServiceRoot ComputerSystem
  | managers : Route ServiceRoot Manager
  | rackPdus : Route PowerEquipment PowerDistribution
  | floorPdus : Route PowerEquipment PowerDistribution
  | transferSwitches : Route PowerEquipment PowerDistribution
  | chassisSensors : Route Chassis Sensor
  | computerSystems : Route Chassis ComputerSystem
  | managedBy : Route Chassis Manager
  | housing : Route ComputerSystem Chassis
  | mains : Route PowerDistribution Circuit
  | branches : Route PowerDistribution Circuit
  | feeders : Route PowerDistribution Circuit
  | outlets : Route PowerDistribution Outlet
  | sensors : Route PowerDistribution Sensor
  | fedOutlets : Route Circuit Outlet

namespace Route

def follow [Transport σ] : Route α β → α → Listing σ β (List β)
  | chassis, r => r.listChassis
  | systems, r => r.listSystems
  | managers, r => r.listManagers
  | rackPdus, p => p.listRackPdus
  | floorPdus, p => p.listFloorPdus
  | transferSwitches, p => p.listTransferSwitches
  | chassisSensors, c => c.listSensors
  | computerSystems, c => c.listComputerSystems
  | managedBy, c => c.listManagedBy
  | housing, s => s.listChassis
  | mains, p => p.listMains
  | branches, p => p.listBranches
  | feeders, p => p.listFeeders
  | outlets, p => p.listOutlets
  | sensors, p => p.listSensors
  | fedOutlets, c => c.listOutlets

end Route

/-- One operation on a service, by what it gives. -/
inductive Operation : Type → Type 1
  | get {α : Type} [Resource α] (uri : String) : Operation (Except Error α)
  | root : Operation (Except Error ServiceRoot)
  | powerEquipment (r : ServiceRoot) : Operation (Except Error (Option PowerEquipment))
  | collection (uri : String) : Operation (Except Error (List String))
  | listReferenced {α : Type} [Resource α] (link : String) :
      Operation (Except (ListError α) (List α))
  | listLinked {α : Type} [Resource α] (links : List Link) :
      Operation (Except (ListError α) (List α))
  | listReferencedFrom {α : Type} [Resource α] (e : Entity) (link : String) :
      Operation (Except (ListError α) (List α))
  | listLinkedFrom {α : Type} [Resource α] (e : Entity) (links : List Link) :
      Operation (Except (ListError α) (List α))
  | follow {α β : Type} (route : Route α β) (a : α) : Operation (Except (ListError β) (List β))
  | update {α : Type} [Updatable α] (current : α) : Operation (Except Error Unit)

def Operation.run [Transport σ] : Operation α → Requests σ α
  | get uri => liftM (getObject uri : Call σ _).run
  | root => liftM (ServiceRoot.fetch : Call σ _).run
  | powerEquipment r => liftM (r.fetchPowerEquipment : Call σ _).run
  | collection uri => (getCollection uri).run
  | listReferenced link => (Redfish.listReferenced link).run
  | listLinked links => (Redfish.listLinked links).run
  | listReferencedFrom e link => (e.listReferenced link).run
  | listLinkedFrom e links => (e.listLinked links).run
  | follow route a => (route.follow a).run
  | update current => liftM (Redfish.update current : Call σ _).run

/-- A program that gives a value of type `β`. -/
inductive Script (β : Type) : Type 1
  | done (b : β)
  | call {α : Type} (operation : Operation α) (next : α → Script β)

def Script.run [Transport σ] : Script β → Requests σ β
  | done b => pure b
  | call operation next => operation.run >>= fun a => (next a).run

namespace Simulation

variable [Transport σ] [Transport τ] (m : Simulation σ τ)

theorem listReferencedFrom [Resource α] (e : Entity) (link : String) :
    Requests.Simulates m.R m.Fit (e.listReferenced link : Listing σ α (List α)).run
      (e.listReferenced link : Listing τ α (List α)).run :=
  m.attachedListing e (m.listReferenced link)

theorem listLinkedFrom [Resource α] (e : Entity) (links : List Link) :
    Requests.Simulates m.R m.Fit (e.listLinked links : Listing σ α (List α)).run
      (e.listLinked links : Listing τ α (List α)).run :=
  m.attachedListing e (m.listLinked links)

theorem follow (route : Route α β) (a : α) :
    Requests.Simulates m.R m.Fit (route.follow a : Listing σ β (List β)).run
      (route.follow a : Listing τ β (List β)).run := by
  cases route with
  | chassis | systems | managers | rackPdus | floorPdus | transferSwitches | chassisSensors | mains
  | branches | feeders | outlets | sensors => exact m.listReferencedFrom _ _
  | computerSystems | managedBy | housing | fedOutlets => exact m.listLinkedFrom _ _

theorem powerEquipment (r : ServiceRoot) :
    Simulates m.R m.Fit (r.fetchPowerEquipment : Call σ (Option PowerEquipment)).run
      (r.fetchPowerEquipment : Call τ (Option PowerEquipment)).run := by
  unfold ServiceRoot.fetchPowerEquipment
  dsimp only
  split
  · exact .of_pure _ (fun _ => rfl) fun _ => rfl
  · refine .bindLift _ ?_
    intro _ _
    refine (m.getObject _).bindCall ?_
    intro equipment
    exact .of_pure _ (fun _ => rfl) fun _ => rfl

theorem operation (operation : Operation α) :
    Requests.Simulates m.R m.Fit (operation.run : Requests σ α) (operation.run : Requests τ α) := by
  cases operation with
  | get uri => exact .of_state (m.getObject uri)
  | root => exact .of_state (m.getObject ServiceRoot.path)
  | powerEquipment r => exact .of_state (m.powerEquipment r)
  | collection uri => exact m.getCollection uri
  | listReferenced link => exact m.listReferenced link
  | listLinked links => exact m.listLinked links
  | listReferencedFrom e link => exact m.listReferencedFrom e link
  | listLinkedFrom e links => exact m.listLinkedFrom e links
  | follow route a => exact m.follow route a
  | update current => exact .of_state (m.update current)

theorem script (script : Script β) :
    Requests.Simulates m.R m.Fit (script.run : Requests σ β) (script.run : Requests τ β) := by
  induction script with
  | done b => exact .of_pure b (fun _ => rfl) fun _ => rfl
  | call operation next ih => exact (m.operation operation).bind ih

end Simulation

end Redfish
