import DualPhy.Block.Resolution
import DualPhy.Remote.Operation

/-!
# Addresses of handlers

A handler is called at `base/block/id/call/index/`, with one slash behind the
base whatever slashes the base ends with.
-/

namespace DualPhy

/-- A text without the slashes at its end. -/
def withoutTrailingSlashes (text : List Char) : List Char :=
  (text.reverse.dropWhile (· == '/')).reverse

/-- Characters of the address of a handler. -/
def callUrlChars (base id : List Char) (index : UInt32) : List Char :=
  withoutTrailingSlashes base ++ "/block/".toList ++ id ++ "/call/".toList ++
    Nat.toDigits 10 index.toNat ++ ['/']

/-- Address of the handler with the number `index` of the block `id`. -/
def callUrl (base id : String) (index : UInt32) : String :=
  String.ofList (callUrlChars base.toList id.toList index)

/-- The addresses of the operations whose block is known. -/
structure EndpointTable where
  /-- Address of an operation. -/
  url? : Operation → Option String

namespace EndpointTable

/-- The addresses under a base address, given the blocks of the roles. -/
def build (base : String) (resolution : Resolution) : EndpointTable where
  url? operation :=
    (resolution.blockId? operation.role).map fun id =>
      callUrl base id operation.callIndex

/-- The operations that have an address, in their order, with the addresses. -/
def entries (table : EndpointTable) : List (Operation × String) :=
  Operation.all.filterMap fun operation =>
    (table.url? operation).map fun url => (operation, url)

end EndpointTable
end DualPhy
