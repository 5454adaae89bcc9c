import SourceExcerpt.Document
/-! What extraction asks of a source. Documents answer from their text; a source of another
kind may answer as it likes, and fail in words of its own. -/
namespace SourceExcerpt
open Text

class Buffer (σ : Type) where
  name : σ → Text
  hasText : σ → Bool
  lineColumn : Int → Query σ Position
  lineAt : Int → Query σ Text

instance : Buffer Document where
  name := Document.name
  hasText := Document.hasText
  lineColumn := Document.lineColumn
  lineAt := Document.lineAt

end SourceExcerpt
