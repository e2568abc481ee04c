/-
This file holds the enumerations of the wire schemas. The values of each are numbered from zero
without a gap, so an enumeration is the list of its names. A field of an enumeration may also
hold a number that has no name.
-/

import Bindery.Text.Fields

namespace Bindery.Wire

/-- The schemas. Each is a file of its own and a package of its own. -/
inductive Schema where
  | commandRequest
  | connectionRequest
  | response
deriving DecidableEq, Repr

namespace Schema

/-- The schemas in the order of their names. -/
def all : List Schema := [.commandRequest, .connectionRequest, .response]

/-- The package of a schema. -/
def package : Schema → String
  | .commandRequest => "command_request"
  | .connectionRequest => "connection_request"
  | .response => "response"

/-- The file of a schema, named for its package. -/
def file (schema : Schema) : String := schema.package ++ ".proto"

/-- The schema of a package. -/
def ofPackage? (package : String) : Option Schema :=
  all.find? fun schema => schema.package = package

end Schema

/-- The enumerations. -/
inductive Enumeration where
  | simpleRoutes
  | slotTypes
  | requestType
  | readFrom
  | tlsMode
  | protocolVersion
  | requestErrorType
  | constantResponse
deriving DecidableEq, Repr

namespace Enumeration

/-- All enumerations in the order of their names. -/
def all : List Enumeration :=
  [.constantResponse, .protocolVersion, .readFrom, .requestErrorType, .requestType,
    .simpleRoutes, .slotTypes, .tlsMode]

/-- The schema that declares an enumeration. -/
def schema : Enumeration → Schema
  | .simpleRoutes | .slotTypes | .requestType => .commandRequest
  | .readFrom | .tlsMode | .protocolVersion => .connectionRequest
  | .requestErrorType | .constantResponse => .response

/-- The name of an enumeration inside its package. -/
def name : Enumeration → String
  | .simpleRoutes => "SimpleRoutes"
  | .slotTypes => "SlotTypes"
  | .requestType => "RequestType"
  | .readFrom => "ReadFrom"
  | .tlsMode => "TlsMode"
  | .protocolVersion => "ProtocolVersion"
  | .requestErrorType => "RequestErrorType"
  | .constantResponse => "ConstantResponse"

/-- The name of an enumeration with its package. -/
def fullName (enumeration : Enumeration) : String :=
  enumeration.schema.package ++ "." ++ enumeration.name

/-- The kinds of requests. -/
def requestTypes : List String :=
    ["InvalidRequest", "CustomCommand", "Get", "Set", "Ping", "Info", "Del", "Select", "ConfigGet",
      "ConfigSet", "ConfigResetStat", "ConfigRewrite", "ClientGetName", "ClientGetRedir",
      "ClientId", "ClientInfo", "ClientKill", "ClientList", "ClientNoEvict", "ClientNoTouch",
      "ClientPause", "ClientReply", "ClientSetInfo", "ClientSetName", "ClientUnblock",
      "ClientUnpause", "Expire", "HashSet", "HashGet", "HashDel", "HashExists", "MGet", "MSet",
      "Incr", "IncrBy", "Decr", "IncrByFloat", "DecrBy", "HashGetAll", "HashMSet", "HashMGet",
      "HashIncrBy", "HashIncrByFloat", "LPush", "LPop", "RPush", "RPop", "LLen", "LRem", "LRange",
      "LTrim", "SAdd", "SRem", "SMembers", "SCard", "PExpireAt", "PExpire", "ExpireAt", "Exists",
      "Unlink", "TTL", "Zadd", "Zrem", "Zrange", "Zcard", "Zcount", "ZIncrBy", "ZScore", "Type",
      "HLen", "Echo", "Publish", "Subscribe", "Unsubscribe", "PSubscribe", "PUnsubscribe", "Scan"]

/-- The names of the values, from zero upwards. -/
def values : Enumeration → List String
  | .simpleRoutes => ["AllNodes", "AllPrimaries", "Random"]
  | .slotTypes => ["Primary", "Replica"]
  | .requestType => requestTypes
  | .readFrom => ["Primary", "PreferReplica", "LowestLatency", "AZAffinity"]
  | .tlsMode => ["NoTls", "SecureTls", "InsecureTls"]
  | .protocolVersion => ["RESP3", "RESP2"]
  | .requestErrorType => ["Unspecified", "ExecAbort", "Timeout", "Disconnect"]
  | .constantResponse => ["OK"]

/-- The number of a value's name. -/
def number? (enumeration : Enumeration) (name : String) : Option Nat :=
  enumeration.values.idxOf? name

end Enumeration

end Bindery.Wire
