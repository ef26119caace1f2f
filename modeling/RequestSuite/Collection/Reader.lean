import RequestSuite.Collection.Basic
import RequestSuite.Json.Record

/-! Reading collections, environments and their parts from JSON texts. -/
namespace RequestSuite.Collection
open Json

def readParts : Decoder Parts := Decode.buffered fun levels tree =>
  match tree with
  | .string _ => (Decode.string levels tree).map .one
  | _ => (Decode.list Decode.string levels tree).map .many

def readEntry : Decoder Entry :=
  Decode.record ["key", "value", "disabled", "enabled"] fun levels fields => do
    let key ← fields.withDefault "key" "" (Decode.string levels)
    let value ← fields.withDefault "value" .null (Decode.value levels)
    let disabled ← fields.withDefault "disabled" false (Decode.bool levels)
    let enabled ← fields.optional "enabled" (Decode.bool levels)
    some ⟨key, value, disabled, enabled⟩

def readUrlParts : Decoder UrlParts :=
  Decode.record ["raw", "protocol", "host", "port", "path", "query", "variable"]
    fun levels fields => do
      let raw ← fields.optional "raw" (Decode.string levels)
      let scheme ← fields.optional "protocol" (Decode.string levels)
      let host ← fields.optional "host" (readParts levels)
      let port ← fields.optional "port" (Decode.string levels)
      let path ← fields.optional "path" (readParts levels)
      let query ← fields.withDefault "query" [] (Decode.list readEntry levels)
      let parameters ← fields.withDefault "variable" [] (Decode.list readEntry levels)
      some ⟨raw, scheme, host, port, path, query, parameters⟩

def readUrl : Decoder Url := Decode.buffered fun levels tree =>
  match tree with
  | .string _ => (Decode.string levels tree).map .text
  | _ => (readUrlParts levels tree).map .parts

def readBody : Decoder Body :=
  Decode.record ["mode", "raw", "urlencoded"] fun levels fields => do
    let mode ← fields.optional "mode" (Decode.string levels)
    let raw ← fields.optional "raw" (Decode.string levels)
    let urlencoded ← fields.withDefault "urlencoded" [] (Decode.list readEntry levels)
    some ⟨mode, raw, urlencoded⟩

def readRequest : Decoder Request :=
  Decode.record ["method", "url", "header", "body"] fun levels fields => do
    let method ← fields.withDefault "method" "GET" (Decode.string levels)
    let url ← fields.optional "url" (readUrl levels)
    let headers ← fields.withDefault "header" [] (Decode.list readEntry levels)
    let body ← fields.optional "body" (readBody levels)
    some ⟨method, url, headers, body⟩

def readScript : Decoder (Option Parts) :=
  Decode.record ["exec"] fun levels fields => fields.optional "exec" (readParts levels)

def readEvent : Decoder Event :=
  Decode.record ["listen", "script"] fun levels fields => do
    let listen ← fields.withDefault "listen" "" (Decode.string levels)
    let script ← fields.optional "script" (readScript levels)
    some ⟨listen, script⟩

def readItemWith (readItems : Tree → Option (List Item)) : Decoder Item :=
  Decode.record ["name", "item", "request", "event"] fun levels fields => do
    let name ← fields.withDefault "name" "" (Decode.string levels)
    let items ← fields.optional "item" readItems
    let request ← fields.optional "request" (readRequest levels)
    let events ← fields.withDefault "event" [] (Decode.list readEvent levels)
    some (.node name items request events)

def readItem : Decoder Item
  | 0, _ => none
  | 1, tree => readItemWith (fun _ => none) 1 tree
  | levels + 2, tree =>
    let readItems : Tree → Option (List Item)
      | .array items => items.mapM (readItem levels)
      | _ => none
    readItemWith readItems (levels + 2) tree

def readInfo : Decoder String :=
  Decode.record ["name"] fun levels fields => fields.withDefault "name" "" (Decode.string levels)

def readCollection : Decoder Collection :=
  Decode.record ["info", "item", "variable"] fun levels fields => do
    let name ← fields.withDefault "info" "" (readInfo levels)
    let items ← fields.optional "item" (Decode.list readItem levels)
    let declared ← fields.withDefault "variable" [] (Decode.list readEntry levels)
    some ⟨name, items, declared⟩

def readEnvironment : Decoder Environment :=
  Decode.record ["name", "values"] fun levels fields => do
    let name ← fields.withDefault "name" "" (Decode.string levels)
    let values ← fields.withDefault "values" [] (Decode.list readEntry levels)
    some ⟨name, values⟩

end RequestSuite.Collection
