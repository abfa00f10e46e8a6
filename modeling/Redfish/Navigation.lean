import Redfish.Listing
import Redfish.Resource.Chassis
import Redfish.Resource.Circuit
import Redfish.Resource.ComputerSystem
import Redfish.Resource.Manager
import Redfish.Resource.Outlet
import Redfish.Resource.PowerDistribution
import Redfish.Resource.PowerEquipment
import Redfish.Resource.Sensor
import Redfish.Resource.ServiceRoot

/-!
# From resource to resource

Each function follows the links of one property, through the service that sent the resource.
-/

namespace Redfish

variable [Transport σ]

namespace ServiceRoot

def fetch : Call σ ServiceRoot := getObject path

def listChassis (r : ServiceRoot) : Listing σ Chassis (List Chassis) :=
  r.entity.listReferenced (Link.target r.chassis)

def listSystems (r : ServiceRoot) : Listing σ ComputerSystem (List ComputerSystem) :=
  r.entity.listReferenced (Link.target r.systems)

def listManagers (r : ServiceRoot) : Listing σ Manager (List Manager) :=
  r.entity.listReferenced (Link.target r.managers)

def fetchPowerEquipment (r : ServiceRoot) : Call σ (Option PowerEquipment) := do
  let uri := Link.target r.powerEquipment
  if uri.isEmpty then return none
  r.entity.checkAttached
  return some (← getObject uri)

end ServiceRoot

namespace PowerEquipment

def listRackPdus (p : PowerEquipment) : Listing σ PowerDistribution (List PowerDistribution) :=
  p.entity.listReferenced (Link.target p.rackPdus)

def listFloorPdus (p : PowerEquipment) : Listing σ PowerDistribution (List PowerDistribution) :=
  p.entity.listReferenced (Link.target p.floorPdus)

def listTransferSwitches (p : PowerEquipment) :
    Listing σ PowerDistribution (List PowerDistribution) :=
  p.entity.listReferenced (Link.target p.transferSwitches)

end PowerEquipment

namespace Chassis

def listSensors (c : Chassis) : Listing σ Sensor (List Sensor) :=
  c.entity.listReferenced (Link.target c.sensors)

def listComputerSystems (c : Chassis) : Listing σ ComputerSystem (List ComputerSystem) :=
  c.entity.listLinked c.links.computerSystems

def listManagedBy (c : Chassis) : Listing σ Manager (List Manager) :=
  c.entity.listLinked c.links.managedBy

end Chassis

namespace ComputerSystem

def listChassis (s : ComputerSystem) : Listing σ Chassis (List Chassis) :=
  s.entity.listLinked s.links.chassis

end ComputerSystem

namespace PowerDistribution

def listMains (p : PowerDistribution) : Listing σ Circuit (List Circuit) :=
  p.entity.listReferenced (Link.target p.mains)

def listBranches (p : PowerDistribution) : Listing σ Circuit (List Circuit) :=
  p.entity.listReferenced (Link.target p.branches)

def listFeeders (p : PowerDistribution) : Listing σ Circuit (List Circuit) :=
  p.entity.listReferenced (Link.target p.feeders)

def listOutlets (p : PowerDistribution) : Listing σ Outlet (List Outlet) :=
  p.entity.listReferenced (Link.target p.outlets)

def listSensors (p : PowerDistribution) : Listing σ Sensor (List Sensor) :=
  p.entity.listReferenced (Link.target p.sensors)

end PowerDistribution

namespace Circuit

def listOutlets (c : Circuit) : Listing σ Outlet (List Outlet) :=
  c.entity.listLinked c.links.outlets

end Circuit

end Redfish
