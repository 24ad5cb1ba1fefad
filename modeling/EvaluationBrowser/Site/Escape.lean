/-
# Escapes in addresses

A percent sign and two hexadecimal digits stand for a byte, every other character for the bytes of
its UTF-8 form. A percent sign that two digits do not follow stands for itself, and so does a plus
sign. Escapes in the result of decoding are not looked at: decoding twice is not decoding once.
-/
import EvaluationBrowser.Text.Digit

namespace EvaluationBrowser.Site

/-- The bytes that a text with escapes stands for. -/
def unescape : List Char → List UInt8
  | [] => []
  | '%' :: a :: b :: rest =>
    match Text.hexDigit? a, Text.hexDigit? b with
    | some high, some low => UInt8.ofNat (high * 16 + low) :: unescape rest
    | _, _ => String.utf8EncodeChar '%' ++ unescape (a :: b :: rest)
  | c :: rest => String.utf8EncodeChar c ++ unescape rest

/-- The text that a text with escapes stands for; that text itself if its bytes are no text. -/
def decoded (s : String) : String :=
  (String.fromUTF8? ⟨(unescape s.toList).toArray⟩).getD s

/-- A text without percent signs stands for its own bytes. -/
theorem unescape_of_no_percent {cs : List Char} (h : '%' ∉ cs) :
    unescape cs = cs.flatMap String.utf8EncodeChar := by
  fun_induction unescape cs with
  | case1 => rfl
  | case2 => simp at h
  | case3 => simp at h
  | case4 c rest _ ih =>
    rw [List.flatMap_cons, ih fun m => h (List.mem_cons_of_mem _ m)]

end EvaluationBrowser.Site
