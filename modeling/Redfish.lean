import Redfish.Client.Session
import Redfish.MemoryService
import Redfish.Navigation
import Redfish.Profile.Loading
import Redfish.Proofs.Annotations
import Redfish.Proofs.Client.Authorization
import Redfish.Proofs.Client.Credentials
import Redfish.Proofs.Client.Endpoint
import Redfish.Proofs.Client.Fields
import Redfish.Proofs.Client.Links
import Redfish.Proofs.Client.Traffic
import Redfish.Proofs.DocumentServer
import Redfish.Proofs.Update.Attachment
import Redfish.Proofs.Update.Body
import Redfish.Proofs.Listing
import Redfish.Proofs.MemoryCollection
import Redfish.Proofs.Navigation
import Redfish.Proofs.Overrides
import Redfish.Proofs.Paging
import Redfish.Proofs.RecordType
import Redfish.Proofs.Redaction
import Redfish.Proofs.ResourceType
import Redfish.Proofs.Script
import Redfish.Proofs.Update.Conveyance
import Redfish.Proofs.Update.Holding
import Redfish.Proofs.Update.Precondition
import Redfish.Proofs.Update.SharedService
import Redfish.Proofs.Update.Upsert
