import Yuha.Core.Protocol
import Yuha.Library.HashMap

/-!
# The response buffer

What the tasks of the remote server have to tell the client waits here for the next poll.
-/

namespace Yuha

open Library

structure ResponseBuffer where
  items : List ResponseItem := []
  pendingConnections : HashMap UInt32 UInt16 := ∅
  closedConnections : List UInt32 := []

namespace ResponseBuffer

def addItem (buffer : ResponseBuffer) (item : ResponseItem) : ResponseBuffer :=
  { buffer with items := buffer.items ++ [item] }

def hasData (buffer : ResponseBuffer) : Bool := !buffer.items.isEmpty

def takeItems (buffer : ResponseBuffer) : List ResponseItem × ResponseBuffer :=
  (buffer.items, { buffer with items := [] })

/-- Unlike `takeItems`, it forgets the connections too. -/
def clear (buffer : ResponseBuffer) : ResponseBuffer :=
  { buffer with items := [], pendingConnections := ∅, closedConnections := [] }

def addNewConnection (buffer : ResponseBuffer) (connectionId : UInt32) (localPort : UInt16) :
    ResponseBuffer :=
  { buffer with
    pendingConnections := AList.insert connectionId localPort buffer.pendingConnections }.addItem
    (.newConnection connectionId localPort)

def addCloseConnection (buffer : ResponseBuffer) (connectionId : UInt32) : ResponseBuffer :=
  { buffer with
    pendingConnections := AList.erase connectionId buffer.pendingConnections
    closedConnections := buffer.closedConnections ++ [connectionId] }.addItem
    (.closeConnection connectionId)

def addPortForwardData (buffer : ResponseBuffer) (connectionId : UInt32) (data : Bytes) :
    ResponseBuffer :=
  buffer.addItem (.portForwardData connectionId data)

def addClipboardContent (buffer : ResponseBuffer) (content : String) : ResponseBuffer :=
  buffer.addItem (.clipboardContent content)

/-- The method that adds such an item. -/
def add (buffer : ResponseBuffer) : ResponseItem → ResponseBuffer
  | .newConnection connectionId localPort => buffer.addNewConnection connectionId localPort
  | .closeConnection connectionId => buffer.addCloseConnection connectionId
  | .portForwardData connectionId data => buffer.addPortForwardData connectionId data
  | .clipboardContent content => buffer.addClipboardContent content

@[simp] theorem items_add (buffer : ResponseBuffer) (item : ResponseItem) :
    (buffer.add item).items = buffer.items ++ [item] := by
  cases item <;> rfl

end ResponseBuffer

/-- The connection an item is about. -/
def ResponseItem.connection : ResponseItem → Option UInt32
  | .newConnection connectionId _ => some connectionId
  | .closeConnection connectionId => some connectionId
  | .portForwardData connectionId _ => some connectionId
  | .clipboardContent _ => none

end Yuha
