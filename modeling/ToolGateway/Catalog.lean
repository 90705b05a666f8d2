import ToolGateway.Tool

namespace ToolGateway.Catalog

inductive Warning where
  | duplicate (name : String)
  | nameless
  deriving DecidableEq, Repr

def Warning.message : Warning → String
  | .duplicate name => "Duplicate tool name in catalog, skipped tool=" ++ name
  | .nameless => "Tool descriptor without a name, skipped"

structure Listing where
  tools : List Tool
  warnings : List Warning

def Listing.empty : Listing := ⟨[], []⟩

def Listing.has (listing : Listing) (name : String) : Bool := listing.tools.any fun tool => tool.name == name

def Listing.add (listing : Listing) (raw : Json) : Listing :=
  match Tool.ofDescriptor? raw with
  | none => {listing with warnings := listing.warnings ++ [.nameless]}
  | some tool =>
    if listing.has tool.name then {listing with warnings := listing.warnings ++ [.duplicate tool.name]}
    else {listing with tools := listing.tools ++ [tool]}

def list (raws : List Json) : Listing := raws.foldl Listing.add .empty

end ToolGateway.Catalog
