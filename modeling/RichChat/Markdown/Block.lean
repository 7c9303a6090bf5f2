import RichChat.Markdown.Inline

/-!
# Blocks

The blocks of a document, with inline content that has not been read yet, since it may refer to
definitions further down. In a tight list the items show the content of their paragraphs without
making them blocks.
-/

namespace RichChat.Markdown

inductive Block where
  | paragraph (content : Content)
  | heading (level : Nat) (content : Content)
  | quote (blocks : List Block)
  | list (start : Option UInt64) (tight : Bool) (items : List Block)
  | item (blocks : List Block)
  | code (language : List Char) (text : List Char)
  | html (text : List Char)
  | rule

namespace Block

def around (container : Container) (events : List Event) : List Event :=
  .start container :: events ++ [.stop]

/-- The language of a code block, unless its name is empty. -/
def language? (name : List Char) : Option String :=
  if name.isEmpty then none else some (String.ofList name)

mutual

/-- The events of a block. Inside an item of a tight list `tight` is set. -/
def events (definitions : Definitions) (tight : Bool) : Block → List Event
  | paragraph content =>
    if tight then content.events definitions
    else around .paragraph (content.events definitions)
  | heading level content => around (.heading level) (content.events definitions)
  | quote blocks => around .blockquote (allEvents definitions false blocks)
  | list start tight items => around (.list start) (allEvents definitions tight items)
  | item blocks => around .item (allEvents definitions tight blocks)
  | code name text => [.startCode (language? name), .text text, .stopCode]
  | html text => around .html [.html text]
  | rule => [.rule]

def allEvents (definitions : Definitions) (tight : Bool) : List Block → List Event
  | [] => []
  | block :: blocks => block.events definitions tight ++ allEvents definitions tight blocks

end

end Block

end RichChat.Markdown
