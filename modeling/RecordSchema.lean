import RecordSchema.Declaration.Schema
import RecordSchema.Document.Flatten
import RecordSchema.Document.OfSchema
import RecordSchema.Document.Profile
import RecordSchema.Document.Trim
import RecordSchema.Options.Source
import RecordSchema.Options.Violation
import RecordSchema.Script
import RecordSchema.Spelling
import RecordSchema.Validation.Report
import RecordSchema.Validation.Verdict
import RecordSchema.Proofs.RunRelocation
import RecordSchema.Proofs.Stages
import RecordSchema.Proofs.BuiltSchema
import RecordSchema.Proofs.NestedRun
import RecordSchema.Proofs.HookCalls
import RecordSchema.Proofs.StageDiscipline
import RecordSchema.Proofs.LostReferences
import RecordSchema.Proofs.Conformance
import RecordSchema.Proofs.Acceptance
import RecordSchema.Proofs.LenientInput
import RecordSchema.Proofs.BuiltTypes
import RecordSchema.Proofs.FixedPoints
import RecordSchema.Proofs.Completion
import RecordSchema.Proofs.Verdicts
import RecordSchema.Proofs.DocumentMeaning
import RecordSchema.Proofs.DocumentKeywords
import RecordSchema.Proofs.Drafting
import RecordSchema.Proofs.DocumentShape
import RecordSchema.Proofs.DocumentDefinitions
import RecordSchema.Proofs.DocumentSoundness
import RecordSchema.Proofs.PlainData
import RecordSchema.Proofs.SuppliedDefault
import RecordSchema.Proofs.BuiltInvariant
import RecordSchema.Proofs.SchemaWalk
import RecordSchema.Proofs.DefinitionChains
import RecordSchema.Proofs.Inlining
import RecordSchema.Proofs.DeeperResolution
import RecordSchema.Proofs.ResolvedDocuments
import RecordSchema.Proofs.StrippedDocuments
import RecordSchema.Proofs.RemovedDefinitions
import RecordSchema.Proofs.InputOnlyDocuments
import RecordSchema.Proofs.DocumentContent
import RecordSchema.Proofs.DocumentFailures
import RecordSchema.Proofs.ConstraintKeywords
import RecordSchema.Proofs.ReferenceClosure
import RecordSchema.Proofs.SelfContained
import RecordSchema.Proofs.MeaningChange
import RecordSchema.Proofs.PointerNames
import RecordSchema.Proofs.TidySchemas
import RecordSchema.Proofs.Flattening
import RecordSchema.Proofs.FlattenedDocuments
import RecordSchema.Proofs.DerivedOmission
import RecordSchema.Proofs.FlatteningEnds
import RecordSchema.Proofs.FlatDocuments
import RecordSchema.Proofs.AttributeNames
import RecordSchema.Proofs.ContainerRoundTrip
import RecordSchema.Proofs.ValidationEnds
import RecordSchema.Proofs.ValidationTerminates
import RecordSchema.Proofs.DataKeywords
import RecordSchema.Proofs.DefinitionPlaces
import RecordSchema.Proofs.CollapsedCombinators
import RecordSchema.Proofs.ReorderedDocuments
import RecordSchema.Proofs.ProfileChanges
import RecordSchema.Proofs.RegularSchemas
import RecordSchema.Proofs.RepeatedFlattening
import RecordSchema.Proofs.ProfiledDocuments
import RecordSchema.Proofs.ViolationPlaces
import RecordSchema.Proofs.Revalidation
import RecordSchema.Proofs.FallbackCatalog
import RecordSchema.Proofs.CustomMessages
import RecordSchema.Proofs.UnansweredChecks
import RecordSchema.Proofs.SizeBounds
import RecordSchema.Proofs.JsonData
import RecordSchema.Proofs.ChoiceEquality
import RecordSchema.Proofs.SchemaPlaces
import RecordSchema.Proofs.ProfileContracts
import RecordSchema.Proofs.EnforcedContracts
import RecordSchema.Proofs.TypeSpellings
import RecordSchema.Proofs.DerivedForms
import RecordSchema.Proofs.TrimmedDocuments
import RecordSchema.Proofs.LocationText
import RecordSchema.Proofs.DefinitionRounds
import RecordSchema.Proofs.ShapeChecks
import RecordSchema.Proofs.CatalogRequests
