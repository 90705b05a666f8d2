import ToolGateway.Url.Domain.Label

namespace ToolGateway.Url.Domain

open Text

def labels? (s : List Char) : Option (List Label) :=
  (((forms? s).bind fun text => (fields '.' text).mapM label?)).filter fun labels =>
    !(labels.any fun label => label.name.any turns) || labels.all fun label => inOrder label.name

def written? (s : List Char) : Option String :=
  (labels? s).map fun labels => String.ofList (List.intercalate ['.'] (labels.map Label.written))

end ToolGateway.Url.Domain
