/-! # Line breaks -/

namespace InstanceCatalog.Text

/-- Line breaks of every convention as line feeds: a carriage return is one, with or without a line
feed after it. -/
def unifyLineBreaks : List Char → List Char
  | [] => []
  | '\r' :: '\n' :: s => '\n' :: unifyLineBreaks s
  | '\r' :: s => '\n' :: unifyLineBreaks s
  | c :: s => c :: unifyLineBreaks s

end InstanceCatalog.Text
