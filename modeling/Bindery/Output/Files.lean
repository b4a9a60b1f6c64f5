/-!
# Access to files

What the commands need of a file system: to read a text, and to write one together with the
directories it is in. Any monad that offers these two can run the commands.
-/

namespace Bindery.Output

/-- Access to files by path. -/
class Files (m : Type → Type) where
  /-- The text in a file; none if there is no such file or it holds no text. -/
  read? : (path : String) → m (Option String)
  /-- Write a text into a file, replacing what was there; whether that was possible. -/
  write : (path content : String) → m Bool

end Bindery.Output
