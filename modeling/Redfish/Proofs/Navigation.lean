import Redfish.Proofs.Script
import Redfish.Proofs.Update.Attachment

/-!
# Links that lead nowhere

A resource that lacks a link may leave the property out, give null or give an empty link. No request is
made for any of these. What a listing gives then depends on the resource alone: through one that was
fetched nothing is found, and one that was not fetched refuses every listing, whatever its links are.
-/

namespace Redfish

def LeadNowhere (links : List Link) : Prop := ∀ l ∈ links, l.uri = ""

instance : DecidablePred LeadNowhere := fun links =>
  inferInstanceAs (Decidable (∀ l ∈ links, l.uri = ""))

theorem Link.target_of_leadNowhere {link : Option Link} (h : LeadNowhere link.toList) :
    Link.target link = "" := by
  cases link with
  | none => rfl
  | some l => exact h l List.mem_cons_self

namespace Entity

def nothingListed (e : Entity) : Except (ListError α) (List α) :=
  if e.isAttached then .ok [] else .error (.collection (.detached e.odataId))

theorem attachedListing_of_nothing (e : Entity) {listing : Listing σ α (List α)} {s : σ}
    (h : listing s = some (.ok [], s)) : e.attachedListing listing s = some (e.nothingListed, s) := by
  unfold attachedListing checkAttached nothingListed
  cases e.isAttached with
  | true => exact h
  | false => rfl

end Entity

section

variable [Transport σ] [Resource α]

theorem listReferenced_nowhere (s : σ) :
    (listReferenced "" : Listing σ α (List α)) s = some (.ok [], s) := rfl

theorem listLinked_of_leadNowhere {links : List Link} (h : LeadNowhere links) (s : σ) :
    (listLinked links : Listing σ α (List α)) s = some (.ok [], s) := by
  have hNone : links.filter (!·.isEmpty) = [] := by
    rw [List.filter_eq_nil_iff]
    intro l hl
    simp [Link.isEmpty, h l hl]
  unfold listLinked
  rw [hNone]
  rfl

namespace Entity

theorem listReferenced_of_leadNowhere (e : Entity) {link : Option Link} (h : LeadNowhere link.toList)
    (s : σ) :
    (e.listReferenced (Link.target link) : Listing σ α (List α)) s = some (e.nothingListed, s) := by
  rw [Link.target_of_leadNowhere h]
  exact e.attachedListing_of_nothing (listReferenced_nowhere s)

theorem listLinked_of_leadNowhere (e : Entity) {links : List Link} (h : LeadNowhere links) (s : σ) :
    (e.listLinked links : Listing σ α (List α)) s = some (e.nothingListed, s) :=
  e.attachedListing_of_nothing (Redfish.listLinked_of_leadNowhere h s)

end Entity

end

namespace Route

def owner : Route α β → α → Entity
  | chassis, r | systems, r | managers, r => r.entity
  | rackPdus, p | floorPdus, p | transferSwitches, p => p.entity
  | chassisSensors, c | computerSystems, c | managedBy, c => c.entity
  | housing, s => s.entity
  | mains, p | branches, p | feeders, p | outlets, p | sensors, p => p.entity
  | fedOutlets, c => c.entity

/-- The links that a route goes along: one that may be absent or any number of them. -/
def links : Route α β → α → List Link
  | chassis, r => r.chassis.toList
  | systems, r => r.systems.toList
  | managers, r => r.managers.toList
  | rackPdus, p => p.rackPdus.toList
  | floorPdus, p => p.floorPdus.toList
  | transferSwitches, p => p.transferSwitches.toList
  | chassisSensors, c => c.sensors.toList
  | computerSystems, c => c.links.computerSystems
  | managedBy, c => c.links.managedBy
  | housing, s => s.links.chassis
  | mains, p => p.mains.toList
  | branches, p => p.branches.toList
  | feeders, p => p.feeders.toList
  | outlets, p => p.outlets.toList
  | sensors, p => p.sensors.toList
  | fedOutlets, c => c.links.outlets

theorem follow_of_leadNowhere [Transport σ] (route : Route α β) {a : α}
    (h : LeadNowhere (route.links a)) (s : σ) :
    route.follow a s = some ((route.owner a).nothingListed, s) := by
  cases route with
  | chassis | systems | managers | rackPdus | floorPdus | transferSwitches | chassisSensors | mains
  | branches | feeders | outlets | sensors => exact Entity.listReferenced_of_leadNowhere _ h s
  | computerSystems | managedBy | housing | fedOutlets =>
    exact Entity.listLinked_of_leadNowhere _ h s

end Route

/-- The link is looked at before the resource, so this succeeds for every resource. -/
theorem ServiceRoot.fetchPowerEquipment_of_leadNowhere [Transport σ] {r : ServiceRoot}
    (h : LeadNowhere r.powerEquipment.toList) (s : σ) :
    r.fetchPowerEquipment s = (.ok none, s) := by
  unfold ServiceRoot.fetchPowerEquipment
  rw [Link.target_of_leadNowhere h]
  rfl

/-- No link that leads nowhere costs a request. A fetched resource lists nothing along such a link, and
one that was not fetched refuses to, as it refuses every listing; the power equipment is missed by both
alike. -/
theorem absent_links_are_not_followed [Transport σ] (s : σ) :
    (∀ {α β : Type} [Resource α] [LawfulResource α] (route : Route α β) (a : α) (fetched : Bool),
      (route.owner a).Reachable α fetched → LeadNowhere (route.links a) →
      route.follow a s = some
        (if fetched then .ok [] else .error (.collection (.detached (route.owner a).odataId)), s)) ∧
    ∀ r : ServiceRoot, LeadNowhere r.powerEquipment.toList →
      r.fetchPowerEquipment s = (.ok none, s) := by
  refine ⟨?_, fun r h => ServiceRoot.fetchPowerEquipment_of_leadNowhere h s⟩
  intro α β _ _ route a fetched hReachable hNowhere
  have hAttached : (route.owner a).isAttached = fetched := hReachable.isAttached_eq.2
  rw [route.follow_of_leadNowhere hNowhere, Entity.nothingListed, hAttached]

theorem null_links_are_not_followed :
    let document := Bytes.ofText "\x7b\"@odata.id\":\"/r\",\"Chassis\":null\x7d"
    let service : MemoryService := .insert "/r" document .empty
    ∃ (fetched read : ServiceRoot) (s : MemoryService),
      (getObject "/r" : Call MemoryService ServiceRoot) service = (.ok fetched, s) ∧
      Resource.ofBytes document = .ok read ∧ LeadNowhere fetched.chassis.toList ∧
      LeadNowhere read.chassis.toList ∧ fetched.listChassis s = some (.ok [], s) ∧
      read.listChassis s = some (.error (.collection (.detached "/r")), s) ∧
      read.fetchPowerEquipment s = (.ok none, s) := by
  intro document service
  refine ⟨_, _, _, rfl, rfl, nofun, nofun, ?_⟩
  have hFetched : ((getObject "/r" : Call MemoryService ServiceRoot) service).1 = .ok _ := rfl
  have hRead : (Resource.ofBytes document : Except Json.Fault ServiceRoot) = .ok _ := rfl
  obtain ⟨hListing, hEquipment⟩ := absent_links_are_not_followed (σ := MemoryService) _
  refine ⟨?_, ?_, ?_⟩
  · exact hListing .chassis _ true (.fetched hFetched) nofun
  · exact hListing .chassis _ false (.read hRead) nofun
  · exact hEquipment _ nofun

/-- A chassis that was only read has no sensors to list, and the listing fails. -/
theorem read_chassis_refuses_to_list :
    let document := Bytes.ofText "\x7b\"@odata.id\":\"/redfish/v1/Chassis/1U\"\x7d"
    ∃ c : Chassis, Resource.ofBytes document = .ok c ∧ c.sensors = none ∧
      c.listSensors MemoryService.empty = some
        (.error (.collection (.detached "/redfish/v1/Chassis/1U")), .empty) :=
  ⟨_, rfl, rfl, rfl⟩

end Redfish
