import TypedBus.Registry.Request
import TypedBus.Session.Basic

namespace TypedBus

/-- Where the registry of a new subscriber comes from. -/
inductive RegistrySource
  | configured (catalog : Option (Catalog Inbound))
  | given (registry : Registry Inbound) (setup : List (Registry.Request Inbound))

inductive Command
  | publisher (name channel : String)
  | rawPublisher (name channel : String)
  | clonePublisher (source name : String)
  | wrapPublisher (raw name : String)
  | subscriber (name channel : String) (source : RegistrySource) (running closure : Bool)
  | rawSubscriber (name channel : String) (running : Bool)
  | drop (name : String)
  | close (name : String)
  | info (name : String)
  | registry (name : String) (request : Registry.Request Inbound)
  | sendObject (name : String) (tag : Option String) (object : TypedObject)
  | prepare (name : String) (tag : Option String) (object : TypedObject)
  | sendMessage (name : String) (message : Message)
  | publish (name : String) (message : Message)
  | publishLeave (name leaver : String) (message : Message)
  | putMeta (name key value : String)
  | eraseMeta (name key : String)
  | setGreeter (name greeter : String) (replies : Bool)
  | clearGreeter (name : String)
  | subscribers (name : String)
  | isPublishingTo (name : String) (id : PeerId)
  | wait (name : String) (count : Nat) (milliseconds : Option Nat)
  | startWait (name : String) (count : Nat) (label : String)
  | metrics
  | subscriberMetrics (name : String)
  | counts
  | failInside (name : String)
  | goOn

inductive Answer
  | nothing
  | joined (id : PeerId)
  | refused (error : NodeError)
  | sent (result : Except TypedError Unit)
  | published (result : Except TransportError Unit)
  | prepared (result : Except TypedError Message)
  | waited (result : Except TransportError Bool)
  | flag (value : Bool)
  | state (bound : Bool)
  | publisherInfo (id : PeerId) (channel : String)
  | subscriberInfo (id : Option PeerId) (channel : String) (bound : Bool)
  | rawSubscriberInfo (id : PeerId) (channel : String) (active : Bool)
  | registry (answer : Except TypedError (Registry.Answer Inbound))
  | text (text : Option String)
  | ids (ids : List PeerId)
  | count (n : Nat)
  | metrics (metrics : TransportMetrics)
  | subscriberMetrics (metrics : SubscriberMetrics)
  | counts (publishers subscribers : Except TransportError Nat)
  | poisoned

namespace RegistrySource

def registry (config : RegistryConfig) : RegistrySource → Registry Inbound
  | configured catalog => .configured config catalog
  | given registry setup => setup.foldl (fun r request => (r.perform request).2) registry

end RegistrySource

end TypedBus
