import FeatureFlags.Record
import FeatureFlags.Event

namespace FeatureFlags

/-- Asks whether an attribute is in a list of an account. -/
structure ListQuery where
  tag : String
  list : String
  account : UInt64
  deriving DecidableEq

/-- Asks what is known about an agent and an address. -/
structure GatewayQuery where
  userAgent : Option String
  ip : Option String
  account : UInt64
  deriving DecidableEq

/-- What a record is read for; this decides how a failure is reported. -/
inductive ReadPurpose where
  | decision
  | toggle
  deriving DecidableEq

/-- A computation that asks collaborators and reports events on its way. It sees of a reply only
what it may depend on: a failed reading is no record, a failed or unclear list reply means no
member, a failed or unreadable gateway reply is none, and whether writing failed is not seen. -/
inductive Inquiry (α : Type) where
  | done (result : α)
  | read (purpose : ReadPurpose) (featureKey user : String) (next : Option Record → Inquiry α)
  | isMember (query : ListQuery) (next : Bool → Inquiry α)
  | classify (query : GatewayQuery) (next : Option GatewayData → Inquiry α)
  | write (record : Record) (next : Inquiry α)
  | note (event : Event) (next : Inquiry α)

namespace Inquiry

variable {α β : Type}

def bind : Inquiry α → (α → Inquiry β) → Inquiry β
  | .done a, f => f a
  | .read purpose key user next, f => .read purpose key user fun r => (next r).bind f
  | .isMember query next, f => .isMember query fun b => (next b).bind f
  | .classify query next, f => .classify query fun d => (next d).bind f
  | .write record next, f => .write record (next.bind f)
  | .note event next, f => .note event (next.bind f)

instance : Monad Inquiry where
  pure := .done
  bind := Inquiry.bind

/-- The record kept for a feature and a user. -/
def recordOf (featureKey user : String) : Inquiry (Option Record) :=
  .read .decision featureKey user .done

def report (event : Event) : Inquiry Unit := .note event (.done ())

end Inquiry

/-- A call of a collaborator. -/
inductive Call where
  | read (featureKey user : String)
  | write (record : Record)
  | list (query : ListQuery)
  | gateway (query : GatewayQuery)
  deriving DecidableEq

/-- The collaborators, which answer and change with a world of their own. -/
structure Services (σ : Type) where
  read : String → String → σ → Except ServiceError (Option Record) × σ
  write : Record → σ → Except ServiceError Unit × σ
  list : ListQuery → σ → Except ServiceError (Option String) × σ
  gateway : GatewayQuery → σ → Except ServiceError (Option String) × σ

namespace Services

/-- Collaborators that keep nothing and know nothing. -/
def none : Services Unit where
  read _ _ w := (.ok .none, w)
  write _ w := (.ok (), w)
  list _ w := (.ok .none, w)
  gateway _ w := (.ok .none, w)

/-- Records kept in memory, and lookups whose replies depend on their queries alone. -/
def inMemory (list : ListQuery → Except ServiceError (Option String))
    (gateway : GatewayQuery → Except ServiceError (Option String)) : Services Store where
  read key user store := (.ok (store.get? key user), store)
  write record store := (.ok (), store.insert record)
  list query store := (list query, store)
  gateway query store := (gateway query, store)

/-- What a list reply means: only the word `true`, in any letter case and with blanks around it,
means that the attribute is a member. -/
def affirms (reply : Except ServiceError (Option String)) : Bool :=
  match reply with
  | .ok (some text) => (Text.trimChars text.toList).map Char.toLower = "true".toList
  | _ => false

end Services

/-- What has happened so far: the world of the collaborators, and the calls and events in order. -/
structure Journal (σ : Type) where
  world : σ
  calls : List Call := []
  events : List Event := []

namespace Journal

variable {σ : Type}

def called (journal : Journal σ) (call : Call) (world : σ) : Journal σ :=
  { journal with world := world, calls := journal.calls ++ [call] }

def noted (journal : Journal σ) (event : Event) : Journal σ :=
  { journal with events := journal.events ++ [event] }

/-- Notes an event if there is one. -/
def notedAny (journal : Journal σ) (event : Option Event) : Journal σ :=
  match event with
  | some e => journal.noted e
  | none => journal

end Journal

/-- The event that reports a failed reading. -/
def ReadPurpose.failure (purpose : ReadPurpose) (featureKey user : String) (error : ServiceError) :
    Event :=
  match purpose with
  | .decision => .recordUnreadable featureKey user error
  | .toggle => .toggleUnreadable featureKey error

namespace Services

/-- What a gateway reply tells, and the event that reports why it tells nothing. -/
def classification (reply : Except ServiceError (Option String)) :
    Option GatewayData × Option Event :=
  match reply with
  | .ok (some text) =>
    match GatewayData.ofText? text with
    | some data => (some data, .none)
    | .none => (.none, some .gatewayReplyUnreadable)
  | .ok .none => (.none, .none)
  | .error e => (.none, some (.gatewayFailed e))

end Services

/-- Carries out an inquiry. -/
def Inquiry.run {α σ : Type} (services : Services σ) : Inquiry α → Journal σ → α × Journal σ
  | .done a, journal => (a, journal)
  | .read purpose key user next, journal =>
    let (reply, world) := services.read key user journal.world
    let journal := journal.called (.read key user) world
    match reply with
    | .ok record => (next record).run services journal
    | .error e => (next none).run services (journal.noted (purpose.failure key user e))
  | .isMember query next, journal =>
    let (reply, world) := services.list query journal.world
    let journal := journal.called (.list query) world
    let failure := match reply with
      | .error e => some (Event.listFailed query.list e)
      | .ok _ => none
    (next (Services.affirms reply)).run services (journal.notedAny failure)
  | .classify query next, journal =>
    let (reply, world) := services.gateway query journal.world
    let (data, failure) := Services.classification reply
    (next data).run services ((journal.called (.gateway query) world).notedAny failure)
  | .write record next, journal =>
    let (reply, world) := services.write record journal.world
    let failure := match reply with
      | .error e => some (Event.notStored record.featureKey record.user e)
      | .ok _ => none
    next.run services ((journal.called (.write record) world).notedAny failure)
  | .note event next, journal => next.run services (journal.noted event)

end FeatureFlags
