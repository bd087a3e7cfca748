import InfobaseGateway.Rpc.Method

/-!
# The directory of message types

Every type of message by its name: the requests and responses of all methods, and the records nested
in them, which are messages of their own.
-/

namespace InfobaseGateway

def Layout.schema (layout : Layout) : Schema :=
  ⟨layout.name, layout.slots.map fun slot => ⟨slot.name, slot.tag, .plain slot.scalar, .ordinary⟩⟩

namespace Schema

/-- The schemas of all messages. -/
def all : List Schema :=
  Rpc.all.flatMap (fun rpc => [Message.schema rpc.Request, Message.schema rpc.Response])
    ++ [Timestamp.layout.schema, ClusterInfo.layout.schema, SessionEntry.layout.schema,
      InfobaseShort.layout.schema]

def named? (name : String) : Option Schema :=
  all.find? fun schema => schema.name = name

end Schema

end InfobaseGateway
