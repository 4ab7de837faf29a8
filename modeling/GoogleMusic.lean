import GoogleMusic.Foundation.Agreement
import GoogleMusic.Foundation.Bytes
import GoogleMusic.Foundation.Chain
import GoogleMusic.Foundation.Cursor
import GoogleMusic.Foundation.Dictionary
import GoogleMusic.Foundation.Erasure
import GoogleMusic.Foundation.Exec
import GoogleMusic.Foundation.Groups
import GoogleMusic.Foundation.Increasing
import GoogleMusic.Foundation.Marks
import GoogleMusic.Foundation.Numerals
import GoogleMusic.Foundation.Paging
import GoogleMusic.Foundation.Runs
import GoogleMusic.Foundation.Slices
import GoogleMusic.Foundation.Sorting
import GoogleMusic.Foundation.Tracing
import GoogleMusic.Foundation.Traversal
import GoogleMusic.Foundation.Triples
import GoogleMusic.Data
import GoogleMusic.Api.Client
import GoogleMusic.Api.Devices
import GoogleMusic.Api.Grouping
import GoogleMusic.Api.Indexing
import GoogleMusic.Api.Loading
import GoogleMusic.Api.Login
import GoogleMusic.Api.Relogin
import GoogleMusic.Api.State
import GoogleMusic.Api.Wrappers
import GoogleMusic.Menus.Browsing
import GoogleMusic.Menus.Library
import GoogleMusic.Menus.Listing
import GoogleMusic.Menus.MenuPages
import GoogleMusic.Menus.Objects
import GoogleMusic.Menus.Playing
import GoogleMusic.Menus.Playlists
import GoogleMusic.Menus.Plugin
import GoogleMusic.Menus.Reference
import GoogleMusic.Menus.Rows
import GoogleMusic.Menus.Shuffling
import GoogleMusic.Menus.Store
import GoogleMusic.Menus.Views
import GoogleMusic.Schedules.Account
import GoogleMusic.Schedules.Accounting
import GoogleMusic.Schedules.Adding
import GoogleMusic.Schedules.Caching
import GoogleMusic.Schedules.ExactlyOnce
import GoogleMusic.Schedules.Freshness
import GoogleMusic.Schedules.Informing
import GoogleMusic.Schedules.Inline
import GoogleMusic.Schedules.Links
import GoogleMusic.Schedules.Naming
import GoogleMusic.Schedules.Opening
import GoogleMusic.Schedules.Progress
import GoogleMusic.Schedules.Provenance
import GoogleMusic.Schedules.Queued
import GoogleMusic.Schedules.Routes
import GoogleMusic.Schedules.Sharing
import GoogleMusic.Schedules.Staged
import GoogleMusic.Vendored.Adds
import GoogleMusic.Vendored.Client
import GoogleMusic.Vendored.Contracts
import GoogleMusic.Vendored.Feeds
import GoogleMusic.Vendored.Grants
import GoogleMusic.Vendored.Identity
import GoogleMusic.Vendored.Keys
import GoogleMusic.Vendored.Lookups
import GoogleMusic.Vendored.Mutations
import GoogleMusic.Vendored.Requests
import GoogleMusic.Vendored.Searching
import GoogleMusic.Vendored.Signing
import GoogleMusic.Vendored.Subsequence
import GoogleMusic.Vendored.Wire
