import SenderPolicy.Json.Decode
import SenderPolicy.Options.Basic

/-!
# Options as data

The JSON form of options, and reading it. A field that is not given keeps its default.
-/

namespace SenderPolicy.Options

def fieldNames : List Text :=
  ["max_dns_lookups".toList, "max_void_lookups".toList, "max_ptr_names".toList, "max_mx_names".toList,
    "max_depth".toList, "timeout_ms".toList, "cache_ttl_secs".toList, "receiving_domain".toList,
    "helo_domain".toList]

def toJson (o : Options) : Json :=
  .ofMembers (fieldNames.zip
    [.nat o.maxLookups, .nat o.maxVoids, .nat o.maxPtrNames, .nat o.maxExchanges, .nat o.maxDepth,
      .nat o.timeout, .option .nat o.cacheTtl, .option .text o.receiver, .option .text o.helo])

/-- A field that may be missing, with its default. -/
def field? {α : Type} (read : Json → Option α) (default : α) : Option Json → Option α
  | none => some default
  | some v => read v

/-- A count that fits a word of 64 bits. -/
def count? : Json → Option Nat :=
  Json.nat? Text.maxWord

def ofJson? (v : Json) : Option Options := do
  let o : Options := {}
  match ← Json.looseFields? fieldNames v with
  | [lookups, voids, ptrNames, exchanges, depth, timeout, ttl, receiver, helo] =>
    return {
      maxLookups := ← field? count? o.maxLookups lookups
      maxVoids := ← field? count? o.maxVoids voids
      maxPtrNames := ← field? count? o.maxPtrNames ptrNames
      maxExchanges := ← field? count? o.maxExchanges exchanges
      maxDepth := ← field? count? o.maxDepth depth
      timeout := ← field? count? o.timeout timeout
      cacheTtl := ← field? (Json.nullable? count?) o.cacheTtl ttl
      receiver := ← field? (Json.nullable? Json.text?) o.receiver receiver
      helo := ← field? (Json.nullable? Json.text?) o.helo helo }
  | _ => none

end SenderPolicy.Options
