import RichChat.CommandLine.Arguments
import RichChat.CommandLine.Program
import RichChat.Config.Basic
import RichChat.Config.Codec
import RichChat.Config.File
import RichChat.Config.Path
import RichChat.Json.Basic
import RichChat.Json.Decode
import RichChat.Json.Reader
import RichChat.Json.Writer
import RichChat.Main
import RichChat.Markdown.Autolink
import RichChat.Markdown.Block
import RichChat.Markdown.Content
import RichChat.Markdown.Delimiter
import RichChat.Markdown.Entity
import RichChat.Markdown.EntityNames
import RichChat.Markdown.Event
import RichChat.Markdown.Html
import RichChat.Markdown.Inline
import RichChat.Markdown.Line
import RichChat.Markdown.Link
import RichChat.Markdown.Node
import RichChat.Markdown.Opening
import RichChat.Markdown.Outline
import RichChat.Markdown.Token
import RichChat.Markdown.Tree
import RichChat.Model.Chat
import RichChat.Model.Codec
import RichChat.Model.Id
import RichChat.Model.Store
import RichChat.Number.Fraction
import RichChat.Proofs.Addresses
import RichChat.Proofs.AttachmentLines
import RichChat.Proofs.AttributeNesting
import RichChat.Proofs.AttributeParts
import RichChat.Proofs.Balance
import RichChat.Proofs.Bars
import RichChat.Proofs.Blanks
import RichChat.Proofs.Blocks
import RichChat.Proofs.Bounds
import RichChat.Proofs.CardLines
import RichChat.Proofs.Closing
import RichChat.Proofs.ClosingOrder
import RichChat.Proofs.CodeText
import RichChat.Proofs.Confined
import RichChat.Proofs.Counting
import RichChat.Proofs.Covers
import RichChat.Proofs.Definitions
import RichChat.Proofs.Digits
import RichChat.Proofs.Drawing
import RichChat.Proofs.EmbedLayout
import RichChat.Proofs.EmojiOnly
import RichChat.Proofs.EmojiSize
import RichChat.Proofs.Endings
import RichChat.Proofs.Everywhere
import RichChat.Proofs.Fetched
import RichChat.Proofs.FirstBlock
import RichChat.Proofs.FirstOnLine
import RichChat.Proofs.Fitting
import RichChat.Proofs.Flat
import RichChat.Proofs.Growth
import RichChat.Proofs.Handler
import RichChat.Proofs.History
import RichChat.Proofs.InStep
import RichChat.Proofs.Inks
import RichChat.Proofs.InlineEvents
import RichChat.Proofs.Invariant
import RichChat.Proofs.Items
import RichChat.Proofs.Joined
import RichChat.Proofs.JsonSpelling
import RichChat.Proofs.Links
import RichChat.Proofs.Literal
import RichChat.Proofs.Marker
import RichChat.Proofs.Maximal
import RichChat.Proofs.MentionSegments
import RichChat.Proofs.Mentioned
import RichChat.Proofs.NestedFrame
import RichChat.Proofs.NestedRendering
import RichChat.Proofs.Nesting
import RichChat.Proofs.Offset
import RichChat.Proofs.OneLine
import RichChat.Proofs.OpenContainers
import RichChat.Proofs.OpenCounts
import RichChat.Proofs.Options
import RichChat.Proofs.Output
import RichChat.Proofs.Page
import RichChat.Proofs.Parts
import RichChat.Proofs.PictureAddress
import RichChat.Proofs.Pictures
import RichChat.Proofs.Places
import RichChat.Proofs.Plan
import RichChat.Proofs.QuoteNest
import RichChat.Proofs.QuoteSpan
import RichChat.Proofs.Quotes
import RichChat.Proofs.Recount
import RichChat.Proofs.Rendering
import RichChat.Proofs.ReplyLine
import RichChat.Proofs.Requests
import RichChat.Proofs.RoleOrder
import RichChat.Proofs.Shift
import RichChat.Proofs.ShiftBuffer
import RichChat.Proofs.ShiftHandler
import RichChat.Proofs.SizeText
import RichChat.Proofs.SourceForms
import RichChat.Proofs.Spacing
import RichChat.Proofs.Spelling
import RichChat.Proofs.Spoilers
import RichChat.Proofs.Stable
import RichChat.Proofs.Started
import RichChat.Proofs.Strokes
import RichChat.Proofs.Styles
import RichChat.Proofs.Telling
import RichChat.Proofs.Thin
import RichChat.Proofs.Tokens
import RichChat.Proofs.Transport
import RichChat.Proofs.TreeShape
import RichChat.Proofs.Turns
import RichChat.Proofs.Unbroken
import RichChat.Proofs.Underscores
import RichChat.Proofs.Visits
import RichChat.Proofs.Wanted
import RichChat.Proofs.Writing
import RichChat.Render.Buffer
import RichChat.Render.Canvas
import RichChat.Render.Card
import RichChat.Render.Element
import RichChat.Render.Mention
import RichChat.Render.Message
import RichChat.Render.Presence
import RichChat.Render.Registry
import RichChat.Render.Reply
import RichChat.Render.Runs
import RichChat.Render.Size
import RichChat.Render.Tooltip
import RichChat.Render.Walk
import RichChat.Rich.Attribute
import RichChat.Rich.AttributeText
import RichChat.Rich.Codec
import RichChat.Rich.Segment
import RichChat.Text.Blank
import RichChat.Text.Bytes
import RichChat.Text.Decimal
import RichChat.Text.Fold
import RichChat.Text.Lines
import RichChat.Text.Punctuation
import RichChat.Text.Word
import RichChat.Time.Format
import RichChat.Time.Rfc3339
import RichChat.Time.Timestamp
import RichChat.Toml.Quoted
import RichChat.Toml.Reader
import RichChat.Toml.Scalar
import RichChat.Toml.Value
import RichChat.Url.Basic
import RichChat.Url.Cdn
import RichChat.Url.Host
import RichChat.Url.Percent
