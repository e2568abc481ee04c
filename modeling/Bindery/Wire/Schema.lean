/-
This file holds the message types of the wire schemas: what fields a message has, under which
numbers they travel, what their values are, and how often a field may hold one.
-/

import Bindery.Wire.Enumeration

namespace Bindery.Wire

/-! ### Types and fields -/

/-- The message types. -/
inductive MessageType where
  | slotIdRoute
  | slotKeyRoute
  | byAddressRoute
  | routes
  | command
  | argsArray
  | scriptInvocationPointers
  | scriptInvocation
  | transaction
  | clusterScan
  | updateConnectionPassword
  | commandRequest
  | nodeAddress
  | authenticationInfo
  | manualInterval
  | checksDisabled
  | channels
  | subscriptions
  | subscriptionsEntry
  | retryStrategy
  | connectionRequest
  | requestError
  | response
deriving DecidableEq, Repr

/-- What one value of a field is. -/
inductive FieldType where
  | bool
  | int32
  | int64
  | uint32
  | uint64
  | text
  | bytes
  | enumeration (type : Enumeration)
  | message (type : MessageType)
deriving DecidableEq, Repr

/-- How many values a field holds and when it counts as set. -/
inductive Rule where
  /-- One value. A scalar counts as set when it differs from its default, a message when it is
  there. -/
  | plain
  /-- At most one value, which counts as set whenever it is there. -/
  | optional
  /-- At most one value, and at most one among the fields of the same choice. -/
  | oneof (choice : String)
  /-- Any number of values in order. -/
  | repeated
  /-- Values under keys; each value is an entry message with a key and a value. -/
  | keyed
deriving DecidableEq, Repr

/-- A field of a message type. -/
structure Field where
  name : String
  number : Nat
  type : FieldType
  rule : Rule
deriving DecidableEq, Repr

namespace Field

/-- Whether the field holds values in a sequence or under keys. -/
def isMany (field : Field) : Bool :=
  match field.rule with
  | .repeated | .keyed => true
  | .plain | .optional | .oneof _ => false

/-- Whether a value that equals the default is told apart from none. -/
def tracksPresence (field : Field) : Bool :=
  match field.rule, field.type with
  | .plain, .message _ => true
  | .plain, _ => false
  | .optional, _ | .oneof _, _ => true
  | .repeated, _ | .keyed, _ => false

/-- The choice that a field belongs to. An optional field is the only one of a choice that is
named after it. -/
def choice? (field : Field) : Option String :=
  match field.rule with
  | .oneof choice => some choice
  | .optional => some ("_" ++ field.name)
  | .plain | .repeated | .keyed => none

/-- Whether the field holds one text or one sequence of bytes. -/
def isPayload (field : Field) : Bool :=
  !field.isMany && (field.type = .text || field.type = .bytes)

end Field

/-! ### The schemas -/

namespace MessageType

/-- All message types in the order of their declaration. -/
def all : List MessageType :=
  [.slotIdRoute, .slotKeyRoute, .byAddressRoute, .routes, .command, .argsArray,
    .scriptInvocationPointers, .scriptInvocation, .transaction, .clusterScan,
    .updateConnectionPassword, .commandRequest, .nodeAddress, .authenticationInfo,
    .manualInterval, .checksDisabled, .channels, .subscriptions, .subscriptionsEntry,
    .retryStrategy, .connectionRequest, .requestError, .response]

/-- The schema that declares a message type. -/
def schema : MessageType → Schema
  | .slotIdRoute | .slotKeyRoute | .byAddressRoute | .routes | .command | .argsArray
  | .scriptInvocationPointers | .scriptInvocation | .transaction | .clusterScan
  | .updateConnectionPassword | .commandRequest => .commandRequest
  | .nodeAddress | .authenticationInfo | .manualInterval | .checksDisabled | .channels
  | .subscriptions | .subscriptionsEntry | .retryStrategy | .connectionRequest =>
    .connectionRequest
  | .requestError | .response => .response

/-- The message type around a nested one. -/
def outer? : MessageType → Option MessageType
  | .argsArray => some .command
  | .subscriptionsEntry => some .subscriptions
  | _ => none

/-- The name of a message type where it is declared. -/
def name : MessageType → String
  | .slotIdRoute => "SlotIdRoute"
  | .slotKeyRoute => "SlotKeyRoute"
  | .byAddressRoute => "ByAddressRoute"
  | .routes => "Routes"
  | .command => "Command"
  | .argsArray => "ArgsArray"
  | .scriptInvocationPointers => "ScriptInvocationPointers"
  | .scriptInvocation => "ScriptInvocation"
  | .transaction => "Transaction"
  | .clusterScan => "ClusterScan"
  | .updateConnectionPassword => "UpdateConnectionPassword"
  | .commandRequest => "CommandRequest"
  | .nodeAddress => "NodeAddress"
  | .authenticationInfo => "AuthenticationInfo"
  | .manualInterval => "PeriodicChecksManualInterval"
  | .checksDisabled => "PeriodicChecksDisabled"
  | .channels => "PubSubChannelsOrPatterns"
  | .subscriptions => "PubSubSubscriptions"
  | .subscriptionsEntry => "ChannelsOrPatternsByTypeEntry"
  | .retryStrategy => "ConnectionRetryStrategy"
  | .connectionRequest => "ConnectionRequest"
  | .requestError => "RequestError"
  | .response => "Response"

/-- The name of a message type with its package and the type around it. -/
def fullName (type : MessageType) : String :=
  let inside :=
    match type.outer? with
    | some outer => outer.name ++ "." ++ type.name
    | none => type.name
  type.schema.package ++ "." ++ inside

/-- The message type of a full name. -/
def ofFullName? (name : String) : Option MessageType :=
  all.find? fun type => type.fullName = name

/-- The fields of a message type in the order of their numbers. -/
def fields : MessageType → List Field
  | .slotIdRoute =>
    [⟨"slot_type", 1, .enumeration .slotTypes, .plain⟩, ⟨"slot_id", 2, .int32, .plain⟩]
  | .slotKeyRoute =>
    [⟨"slot_type", 1, .enumeration .slotTypes, .plain⟩, ⟨"slot_key", 2, .text, .plain⟩]
  | .byAddressRoute => [⟨"host", 1, .text, .plain⟩, ⟨"port", 2, .int32, .plain⟩]
  | .routes =>
    [⟨"simple_routes", 1, .enumeration .simpleRoutes, .oneof "value"⟩,
      ⟨"slot_key_route", 2, .message .slotKeyRoute, .oneof "value"⟩,
      ⟨"slot_id_route", 3, .message .slotIdRoute, .oneof "value"⟩,
      ⟨"by_address_route", 4, .message .byAddressRoute, .oneof "value"⟩]
  | .command =>
    [⟨"request_type", 1, .enumeration .requestType, .plain⟩,
      ⟨"args_array", 2, .message .argsArray, .oneof "args"⟩,
      ⟨"args_vec_pointer", 3, .uint64, .oneof "args"⟩]
  | .argsArray => [⟨"args", 1, .bytes, .repeated⟩]
  | .scriptInvocationPointers =>
    [⟨"hash", 1, .text, .plain⟩, ⟨"keys_pointer", 2, .uint64, .optional⟩,
      ⟨"args_pointer", 3, .uint64, .optional⟩]
  | .scriptInvocation =>
    [⟨"hash", 1, .text, .plain⟩, ⟨"keys", 2, .bytes, .repeated⟩, ⟨"args", 3, .bytes, .repeated⟩]
  | .transaction => [⟨"commands", 1, .message .command, .repeated⟩]
  | .clusterScan =>
    [⟨"cursor", 1, .text, .plain⟩, ⟨"match_pattern", 2, .bytes, .optional⟩,
      ⟨"count", 3, .int64, .optional⟩, ⟨"object_type", 4, .text, .optional⟩]
  | .updateConnectionPassword =>
    [⟨"password", 1, .text, .optional⟩, ⟨"immediate_auth", 2, .bool, .plain⟩]
  | .commandRequest =>
    [⟨"callback_idx", 1, .uint32, .plain⟩,
      ⟨"single_command", 2, .message .command, .oneof "command"⟩,
      ⟨"transaction", 3, .message .transaction, .oneof "command"⟩,
      ⟨"script_invocation", 4, .message .scriptInvocation, .oneof "command"⟩,
      ⟨"script_invocation_pointers", 5, .message .scriptInvocationPointers, .oneof "command"⟩,
      ⟨"cluster_scan", 6, .message .clusterScan, .oneof "command"⟩,
      ⟨"update_connection_password", 7, .message .updateConnectionPassword, .oneof "command"⟩,
      ⟨"route", 8, .message .routes, .plain⟩]
  | .nodeAddress => [⟨"host", 1, .text, .plain⟩, ⟨"port", 2, .uint32, .plain⟩]
  | .authenticationInfo => [⟨"password", 1, .text, .plain⟩, ⟨"username", 2, .text, .plain⟩]
  | .manualInterval => [⟨"duration_in_sec", 1, .uint32, .plain⟩]
  | .checksDisabled => []
  | .channels => [⟨"channels_or_patterns", 1, .bytes, .repeated⟩]
  | .subscriptions =>
    [⟨"channels_or_patterns_by_type", 1, .message .subscriptionsEntry, .keyed⟩]
  | .subscriptionsEntry =>
    [⟨"key", 1, .uint32, .plain⟩, ⟨"value", 2, .message .channels, .plain⟩]
  | .retryStrategy =>
    [⟨"number_of_retries", 1, .uint32, .plain⟩, ⟨"factor", 2, .uint32, .plain⟩,
      ⟨"exponent_base", 3, .uint32, .plain⟩]
  | .connectionRequest =>
    [⟨"addresses", 1, .message .nodeAddress, .repeated⟩,
      ⟨"tls_mode", 2, .enumeration .tlsMode, .plain⟩,
      ⟨"cluster_mode_enabled", 3, .bool, .plain⟩,
      ⟨"request_timeout", 4, .uint32, .plain⟩,
      ⟨"read_from", 5, .enumeration .readFrom, .plain⟩,
      ⟨"connection_retry_strategy", 6, .message .retryStrategy, .plain⟩,
      ⟨"authentication_info", 7, .message .authenticationInfo, .plain⟩,
      ⟨"database_id", 8, .uint32, .plain⟩,
      ⟨"protocol", 9, .enumeration .protocolVersion, .plain⟩,
      ⟨"client_name", 10, .text, .plain⟩,
      ⟨"periodic_checks_manual_interval", 11, .message .manualInterval,
        .oneof "periodic_checks"⟩,
      ⟨"periodic_checks_disabled", 12, .message .checksDisabled, .oneof "periodic_checks"⟩,
      ⟨"pubsub_subscriptions", 13, .message .subscriptions, .plain⟩,
      ⟨"inflight_requests_limit", 14, .uint32, .plain⟩,
      ⟨"client_az", 15, .text, .plain⟩]
  | .requestError =>
    [⟨"type", 1, .enumeration .requestErrorType, .plain⟩, ⟨"message", 2, .text, .plain⟩]
  | .response =>
    [⟨"callback_idx", 1, .uint32, .plain⟩,
      ⟨"resp_pointer", 2, .uint64, .oneof "value"⟩,
      ⟨"constant_response", 3, .enumeration .constantResponse, .oneof "value"⟩,
      ⟨"request_error", 4, .message .requestError, .oneof "value"⟩,
      ⟨"closing_error", 5, .text, .oneof "value"⟩,
      ⟨"is_push", 6, .bool, .plain⟩]

/-! ### Looking up fields -/

/-- The field of a number. -/
def field? (type : MessageType) (number : Nat) : Option Field :=
  type.fields.find? fun field => field.number = number

/-- The field of a name. -/
def named? (type : MessageType) (name : String) : Option Field :=
  type.fields.find? fun field => field.name = name

/-- Whether two fields cannot be set at once: they are the same field or belong to the same
choice. -/
def excludes (first second : Field) : Bool :=
  first.number = second.number ||
    (match first.choice? with
      | some choice => second.choice? = some choice
      | none => false)

/-- The numbers of the fields that lose their value when a field is set: its own and those of
the other fields of its choice. -/
def rivals (type : MessageType) (field : Field) : List Nat :=
  (type.fields.filter (excludes field)).map Field.number

/-- The names of the choices, those of several fields before those of one optional field. -/
def choices (type : MessageType) : List String :=
  let declared := type.fields.filterMap fun field =>
    match field.rule with
    | .oneof choice => some choice
    | _ => none
  let optional := type.fields.filterMap fun field =>
    match field.rule with
    | .optional => field.choice?
    | _ => none
  declared.eraseDups ++ optional

end MessageType

end Bindery.Wire
