/-!
# Quoted text

A text in quotes: a quote inside it is written twice.
-/

namespace SemanticLayer.Text

/-- A text with every `q` doubled. -/
def doubled (q : Char) (s : String) : String :=
  String.ofList (s.toList.flatMap fun c => if c == q then [c, c] else [c])

/-- A text in quotes of the kind `q`. -/
def quoted (q : Char) (s : String) : String :=
  String.ofList (q :: (doubled q s).toList ++ [q])

end SemanticLayer.Text
