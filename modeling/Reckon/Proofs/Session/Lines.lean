import Reckon.Session.Transcript

/-!
# The lines of an input

An input is cut at its line feeds, which is done on bytes. No byte of a longer character
is a line feed, so a line that is text stays text without its line feed.
-/

namespace Reckon
namespace Session

/-!
## Bytes as text
-/

end Session
end Reckon
