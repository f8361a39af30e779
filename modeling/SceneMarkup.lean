import SceneMarkup.Json.Writer
import SceneMarkup.Main
import SceneMarkup.Proofs.ConversionOutcome
import SceneMarkup.Proofs.Css.Cascade
import SceneMarkup.Proofs.Css.Lines
import SceneMarkup.Proofs.Css.Shorthand
import SceneMarkup.Proofs.Emission.Anchoring
import SceneMarkup.Proofs.Emission.Boxes
import SceneMarkup.Proofs.Emission.Clusters
import SceneMarkup.Proofs.Emission.Exports
import SceneMarkup.Proofs.Emission.History
import SceneMarkup.Proofs.Emission.Masking
import SceneMarkup.Proofs.Emission.FontRequests
import SceneMarkup.Proofs.Emission.Naming
import SceneMarkup.Proofs.Emission.Parts
import SceneMarkup.Proofs.Emission.Pictures
import SceneMarkup.Proofs.Emission.Pieces
import SceneMarkup.Proofs.Emission.Properties
import SceneMarkup.Proofs.Emission.Reach
import SceneMarkup.Proofs.Emission.Requests
import SceneMarkup.Proofs.Emission.RuleOrder
import SceneMarkup.Proofs.Emission.Sizing
import SceneMarkup.Proofs.Emission.Spelling
import SceneMarkup.Proofs.Emission.Usage
import SceneMarkup.Proofs.HiddenLayers
import SceneMarkup.Proofs.Layout.Tables
import SceneMarkup.Proofs.Numeric.Exact
import SceneMarkup.Proofs.Picture.Fetching
import SceneMarkup.Proofs.Layout.Spacing
import SceneMarkup.Proofs.Picture.Inlining
import SceneMarkup.Proofs.Position.Edges
import SceneMarkup.Proofs.Position.ExactPlaces
import SceneMarkup.Proofs.Position.Offsets
import SceneMarkup.Proofs.Position.Turning
import SceneMarkup.Proofs.Scene.Hidden
import SceneMarkup.Proofs.Stylesheet.Accounts
import SceneMarkup.Proofs.Stylesheet.Families
import SceneMarkup.Proofs.Stylesheet.Keys
import SceneMarkup.Proofs.Stylesheet.Order
import SceneMarkup.Proofs.Emission.Stacking
import SceneMarkup.Proofs.Markup.Attribute
import SceneMarkup.Proofs.Markup.Render
import SceneMarkup.Proofs.Appearance.Values
import SceneMarkup.Proofs.Emission.Fonts
import SceneMarkup.Proofs.Stylesheet.Reading
import SceneMarkup.Proofs.StylesheetReading
import SceneMarkup.Proofs.Stylesheet.VisitOrder
import SceneMarkup.Proofs.Emission.ClassNames
import SceneMarkup.Proofs.Scene.Codec.Node
import SceneMarkup.Proofs.RealNumbers
import SceneMarkup.Proofs.Appearance.LuminanceMasks
import SceneMarkup.Proofs.Picture.Prolog
import SceneMarkup.Proofs.Typography.Arrival
import SceneMarkup.Proofs.Css.Overriding
import SceneMarkup.Proofs.Naming.BaseName
import SceneMarkup.Proofs.Appearance.Agreement
import SceneMarkup.Proofs.Typography.FontAddress
import SceneMarkup.Proofs.Naming.Slug
import SceneMarkup.Proofs.Naming.ComponentName
import SceneMarkup.Proofs.Stylesheet.MintedNames
import SceneMarkup.Proofs.Css.CanonicalNumbers
