/-!
# Columns

Text filled up with spaces to the width of a column.  A text that is too long for
its column stays as it is.
-/

namespace LogPattern.Text

def filling (width : Nat) (text : String) : String :=
  String.ofList (List.replicate (width - text.length) ' ')

def alignLeft (width : Nat) (text : String) : String := text ++ filling width text

def alignRight (width : Nat) (text : String) : String := filling width text ++ text

theorem length_filling (width : Nat) (text : String) :
    (filling width text).length = width - text.length := by
  simp [filling]

theorem length_alignLeft (width : Nat) (text : String) :
    (alignLeft width text).length = max width text.length := by
  simp only [alignLeft, String.length_append, length_filling]
  omega

theorem length_alignRight (width : Nat) (text : String) :
    (alignRight width text).length = max width text.length := by
  simp only [alignRight, String.length_append, length_filling]
  omega

def rule (width : Nat) : String := String.ofList (List.replicate width '-')

end LogPattern.Text
