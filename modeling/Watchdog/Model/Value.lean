import Watchdog.Model.Rpc
import Watchdog.Foundations.GoSlice

namespace Watchdog

open GoSlice

inductive GoValue where
  | nil
  | bool (b : Bool)
  | int (n : Int64)
  | uint64 (n : UInt64)
  | string (s : String)
  | uint64s (ns : List UInt64)
  | strings (ss : List String)
  | blockHeader (h : BlockHeader)
  | nodeMetadata (n : NodeMetadata)
  | slice (vs : List GoValue)
  | anyMap (m : List (String × GoValue))
  | map (m : List (String × GoValue))

namespace GoValue

def typeName : GoValue → String
  | nil => "nil"
  | bool _ => "bool"
  | int _ => "int"
  | uint64 _ => "uint64"
  | string _ => "string"
  | uint64s _ => "[]uint64"
  | strings _ => "[]string"
  | blockHeader _ => "main.BlockHeader"
  | nodeMetadata _ => "main.NodeMetadata"
  | slice _ => "[]interface {}"
  | anyMap _ => "main.any"
  | map _ => "map[string]interface {}"

def isNil : GoValue → Bool
  | nil => true
  | _ => false

def ofUInt64? : Option UInt64 → GoValue
  | some n => uint64 n
  | none => nil

def ofBlockHeader? : Option BlockHeader → GoValue
  | some h => blockHeader h
  | none => nil

def ofNodeMetadata? : Option NodeMetadata → GoValue
  | some n => nodeMetadata n
  | none => nil

def eqUInt64 : GoValue → UInt64 → Bool
  | uint64 m, n => m == n
  | _, _ => false

def asAny : GoValue → Except Panic (List (String × GoValue))
  | anyMap m => .ok m
  | v => .error (.typeAssertion v.typeName "main.any")

def asMap : GoValue → Except Panic (List (String × GoValue))
  | map m => .ok m
  | v => .error (.typeAssertion v.typeName "map[string]interface {}")

def asSlice : GoValue → Except Panic (List GoValue)
  | slice vs => .ok vs
  | v => .error (.typeAssertion v.typeName "[]interface {}")

def asBlockHeader : GoValue → Except Panic BlockHeader
  | blockHeader h => .ok h
  | v => .error (.typeAssertion v.typeName "main.BlockHeader")

def asNodeMetadata : GoValue → Except Panic NodeMetadata
  | nodeMetadata n => .ok n
  | v => .error (.typeAssertion v.typeName "main.NodeMetadata")

def asUInt64 : GoValue → Except Panic UInt64
  | uint64 n => .ok n
  | v => .error (.typeAssertion v.typeName "uint64")

@[simp] theorem eqUInt64_ofUInt64? (o : Option UInt64) (n : UInt64) :
    (ofUInt64? o).eqUInt64 n = (o == some n) := by
  cases o <;> simp [ofUInt64?, eqUInt64]

end GoValue

abbrev Dict := List (String × GoValue)

def index (m : Dict) (k : String) : GoValue := (m.lookup k).getD .nil

end Watchdog
