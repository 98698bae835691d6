/-!
# Names of characters from I to L

The names and other names of characters that begin with these letters, written
as the module `Chip8.Text.CharacterName` says.
-/

namespace Chip8.Text.CharacterName

def namesIToL : List String := [
    "aI LOVE YOU HAND SIGNtCE CREAMeUBEeHOCKEY STICK AND PUCKvSKATE",
    "iDENTICAL TOa AND SLANTED PARALLELxWITH DOT ABOVEsFICATION CARD",
    "qOGRAPHIC ANNOTATION BOTTOM MARKlEARTH MARKkFIRST MARKjOUR MARKfTH MARK",
    "lHEAVEN MARKlLINKING MARKmMAN MARKhIDDLE MARKlONE MARKiREVERSE MARK",
    "mSECOND MARKlTHIRD MARKiREE MARKjOP MARKhWO MARKtCLOSING MARKlOMMA",
    "fDEPARTING TONE MARKrSCRIPTION CHARACTER ABOVE TO BELOWfMIDDLE AND BELOW",
    "zaFULL SURROUNDnLEFT TO MIDDLE AND RIGHTqRIGHTnOVERLAID",
    "iSURROUND FROM ABOVEfBELOWfLEFTdOWER LEFTkUPPER LEFTeRIGHTz",
    "wENTERING TONE MARKsFULL STOPjHALF FILL SPACEpITERATION MARK",
    "oLEVEL TONE MARKpNUMBER ZEROlRISING TONE MARKqSPACEfTALLY MARK FIVEdOUR",
    "eONEdTHREEeWOnELEGRAPH LINE FEED SEPARATOR SYMBOLzbSYMBOL FOR APRIL",
    "eUGUSTgDAY EIGHTaEENhLEVENgFIFTEENfVEdOURaTEENiNINEaTEENiONEdSEVENaTEEN",
    "iIXaTEENhTENcHIRTEENdYa-ONEiREEeWELVEdNTYa-EIGHTfFIVEdOUReNINEeONEdSEVEN",
    "eIXdTHREEeWOiOgECEMBERiFEBRUARYiHOUR EIGHTaEENhLEVENgFIFTEENfVEdOURaTEEN",
    "iNINEaTEENiONEdSEVENaTEENiIXaTEENhTENcHIRTEENgREEeWELVEdNTYa-FOUReONE",
    "dTHREEeWOiOdZEROjJANUARYgULYcNEeMARCHdYdNOVEMBERiOCTOBERhSEPTEMBERz",
    "fVARIATION INDICATORzfMAGE OFa OR APPROXIMATELY EQUAL TOzhP",
    "aERIAL ARAMAIC LETTER ALEPHeYINeBETHeDALETHgGIMELfHEaTHeKAPHeLAMEDHgMEM",
    "dNUNdPEcQOPHeRESHeSADHEdMEKHfHINeTAWcETHeWAWdYODHeZAYINmNUMBER ONE",
    "a HUNDREDhTHOUSANDmTENa THOUSANDlHREEeWENTYeOkSECTION SIGNzdNBOX TRAY",
    "iCOMING ENVELOPEmPLETE INFINITYqREASE FONT SIZE SYMBOLrS AShMENThDaEX",
    "a POINTING AT THE VIEWERzaIAN RUPEE SIGNnC SIYAQ ALTERNATE LAKH MARK",
    "tFRACTION ONE HALFeQUARTERlTHREE QUARTERSxLAKH MARKjNUMBER ALTERNATE ONE",
    "dTEN THOUSANDlWOnEIGHTa HUNDREDhTHOUSANDjYa THOUSANDpFIFTYa THOUSANDmVE",
    "a HUNDREDhTHOUSANDmORTYa THOUSANDmURa HUNDREDhTHOUSANDnKARORaANhLAKHaAN",
    "gNINEa HUNDREDhTHOUSANDjTYa THOUSANDpONEa HUNDREDhTHOUSAND",
    "mPREFIXED EIGHTfFIVEdOUReNINEeONEdSEVENeIXdTHREEeWOmSEVENa HUNDRED",
    "hTHOUSANDjTYa THOUSANDpIXa HUNDREDhTHOUSANDjTYa THOUSANDoTENa THOUSAND",
    "lHIRTYa THOUSANDnREEa HUNDREDhTHOUSANDnWENTYa THOUSANDnOa HUNDRED",
    "hTHOUSANDtPLACEHOLDERlRUPEE MARKuFINITYa NEGATED WITH VERTICAL BARz",
    "gORMATION DESK PERSONlSEPARATOR FOUReONEdTHREEeWOmOURCE",
    "qHIBIT ARABIC FORM SHAPINGtSYMMETRIC SWAPPING",
    "yPUT SYMBOL FOR LATIN CAPITAL LETTERSpLETTERShSMALL LETTERStNUMBERS",
    "hSYMBOLSwSCRIPTIONAL PAHLAVI LETTER ALEPHfBETHeDALETHgGIMELfHEaTHeKAPH",
    "eLAMEDHgMEM-QOPHiNUNdPEcSADHEdMEKHfHINeTAWcETHeWAW-AYIN-RESHnYODHeZAYIN",
    "mNUMBER FOUReONEa HUNDREDhTHOUSANDmTENcHREEeWENTYeOqRTHIAN LETTER ALEPH",
    "eYINeBETHeDALETHgGIMELfHEaTHeKAPHeLAMEDHgMEMdNUNdPEcQOPHeRESHeSADHEdMEKH",
    "fHINeTAWcETHeWAWdYODHeZAYINmNUMBER FOUReONEa HUNDREDhTHOUSANDmTENcHREE",
    "eWENTYeOzfERTION SYMBOLoTEGRALa AROUND A POINT OPERATOR",
    "wVERAGE WITH SLASHsEXTENSIONjWITH DOUBLE STROKEnINTERSECTION",
    "mLEFTWARDS ARROW WITH HOOKzaOVERBARhTIMES SIGNkUNDERBARgIONpRCALATE",
    "gIOR PRODUCTlLINEAR ANNOTATION ANCHORgSEPARATORjTERMINATORz",
    "cOCKED FEMALE AND MALE SIGNzcROBANGgSECTIONa ABOVE BAR ABOVE UNIONpUNION",
    "lBESIDE AND JOINED WITH INTERSECTIONzkWITH DOTdLOGICAL ANDlOVERBAR",
    "xVERSE BULLETgCHECK MARKfER BOARD FILL",
    "sDOWNWARDS ARROW WITH TIP LEFTWARDSzjMEDIUM SHADEmWHITE CIRCLE",
    "pTED EXCLAMATION MARKqINTERROBANGlLAZY SfOW KAVYKAa WITH KAVYKA ABOVEz",
    "dOHM SIGNiPENTAGRAMjQUESTION MARKnUNDERTIEoISIBLE PLUSeSEPARATORjTIMES",
    "oZAKAYA LANTERNpJACK-O-LANTERNmPANESE BANK SYMBOLlCASTLEgDOLLSfGOBLIN",
    "gINDUSTRIAL STANDARD SYMBOLzbOGREePOST OFFICElSYMBOL FOR BEGINNERzbR",
    "bVANESE CONSONANT SIGN CAKRAfKERETfPENGKALwDIGIT EIGHTfFIVEdOUReNINEeONE",
    "dSEVENeIXdTHREEeWOdZEROkLEFT RERENGGANmTTER AaIcBAa MURDAiCAa MURDAiDA",
    "a MAHAPRANAlDAa MAHAPRANAnEbGAa MURDAiHAcIa KAWIfIcJAa MAHAPRANAmKA",
    "a MURDAfSASAKiLAcMAcNAa MURDAhGAa LELETa RASWADIqYAa MURDAjObPAa CEREK",
    "fMURDAiRAa AGUNGiSAa MAHAPRANAiURDAiTAa MURDAhTAa MAHAPRANAnUbWAcYA",
    "jPADA ADEGa ADEGiNDAPfISEN-ISENjLINGSAfUHURdNGSIgMADYAfPANGKATgISELEH",
    "hTIRTA TUMETESnWINDUiNGKONdRANGKEPlRIGHT RERENGGANpSIGN CECAKa TELU",
    "kLAYARfPANYANGGAjWIGNYANmTURNED PADA PISELEHtVOWEL SIGN DIRGA MUREkPEPET",
    "fSUKUa MENDUTlTALINGeRUNGfOLONGgWULUa MELIKzeEANSeIGSAW PUZZLE PIECEsOIN",
    "cYSTICKhUGGLINGgNOcPITERhKAABAdITHI ABBREVIATION SIGNrDANDAeOUBLE DANDA",
    "fSECTION MARKtENUMERATION SIGNqLETTER AaAbIbUcBAbHAdCAbHAdDAbDAbDHAdHA",
    "dHAdEbGAbHAdHAcIaIcJAbHAdKAbHAdLAcMAcNAbGAcNAcYAdObPAbHAdRAbHAdSAbHAcSA",
    "dTAbHAcTAbHAeUaUcVAcYAjNUMBER SIGNa ABOVErSECTION MARKlIGN ANUSVARA",
    "iCANDRABINDUlNUKTAfVIRAMAeSARGAmVOWEL SIGN AAbIbUcEbIaIcObUaUcVOCALIC Rz",
    "aNGAROOeXI RADICAL AGAINeNDcRRIVEdOWeXEdBADGEReMBOOfEANdIGbRDcTTERfLACK",
    "dOODdUEdOATcDYcLT OF CLOTHlNEcWcRANCHeISTLEfUSHfCARTcULDRONgVEdHILDeITY",
    "dLANbWcIFFdOTHESgOLORdMPAREfRPSEeVERdWdDEATHdERdIPPEReSHbTINGUISH",
    "jVINATIONjO NOTeGbORcTaTED CLIFFfTENTjUBLE XgWN BOXhRAGONeUMcYdEARaTHdT",
    "cIGHTeMBROIDERYjNCLOSUREhTEReVENaINGgYEdFACEcNGcTHERfEATHERgIELDdGHTdRE",
    "cSHdLUTEdYcOOTdRAGRANTgOGdURdGATEdHOSTeOa SLOWLYhLDdRAINcSSfHAIRcLBERD",
    "eF TREE TRUNKnNDdEADbRTdMPdIDING ENCLOSUREpOOKcRNbSEfICEcNCHcSECTgJADEcR",
    "dKNIFEfLACKcMEdEAFbTHERfEKcGSdIDbFEcNEdONGa STRIDElMANcEATcLONeILLET",
    "eNISTERhOONcRNINGeTAReUNDbTAINfTHfNETcOSEcTdOLDcNEaSELFgPEN BOXgPOSEgPIG",
    "cLOWdOWEReRIVATEfOFOUNDiRAINcPbTcEDcICEcGHT OPEN BOXmVEReOOFdUN",
    "dSACRIFICIAL WINEoLTcYcCHOLARfRIPTfEALcCONDeEbLFdHEEPcLLdOOT",
    "cRT TAILED BIRDkHREADlICKNESSgLKdKINdLASHcVEdICEeMALLeNOUTeOUNDePEARcECH",
    "eIRITeOONdROUTfQUAREfTANDdEAMcPcONEcPaPINGhUNcWEETfTABLEdLLcNNED LEATHER",
    "nENcIGERdLEdONGUEeOTHeRACKdEEcIPODfURBANdTLEfWOa HANDSjUSEdVALLEYfILLAGE",
    "hWALKa ENCLOSUREmTEReEAPONeSTdHEATdITEeINDbEdOMANdRKdRAPcONGfYELLOW",
    "sNADA AI LENGTH MARKoDIGIT EIGHTfFIVEdOUReNINEeONEdSEVENeIXdTHREEeWO",
    "dZEROkLENGTH MARKjTTER AaAbIbUcBAbHAdCAbHAdDAbDAbHAdHAdEaEcFAcGAbHAdHAcI",
    "aIcJAbHAdKAbHAdLAbLAbLAeMAcNAaKAARA POLLUmGAcNAcYAdOaOcPAbHAdRAbRAdSAbHA",
    "cSAdTAbHAcTAbHAeUaUcVAbOCALIC LaLcRaRkYAjSIGN ANUSVARAhVAGRAHA",
    "iCANDRABINDUlJIHVAMULIYAlNUKTAfSIDDHAMgPACING CANDRABINDUtUPADHMANIYA",
    "lVIRAMAeSARGAmVOWEL SIGN AAbIbUcEaEcIaIcOaOcUaUcVOCALIC LaLcRaRz",
    "cTAKANA DIGRAPH KOTOmITERATION MARKoLETTER AaRCHAIC EbWUcYEbIkBAbEbIbObU",
    "cDAbEbIbObUcEbGAbEbIbObUcHAbEbIbObUcIbKAbEbIbObUcMAbEbI",
    "aNNAN NASALIZED TONE-1b2b3b4b5b7b8qTONE-2b3b4b5b7b8mObUcNaAbEbIbObUcObPA",
    "bEbIbObUcRAbEbIbObUcSAbEbIbMALL AbEbHAbEbIbObUcIbKAbEbUcMUcNaUcObRAbEbI",
    "bObUcSIbUcTObUcUbWAbEbIbOcYAbObUhObUcTAbEbIbObUcUbVAbEbIbObUcWAbEbIbOcYA",
    "bObUcZAbEbIbObUjMIDDLE DOTkVOICED ITERATION MARKw-HIRAGANA DOUBLE HYPHEN",
    "nPROLONGED SOUND MARKuSEMI-VOICED SOUND MARKwVOICED SOUND MARKz",
    "iYAH LI DIGIT EIGHTfFIVEdOUReNINEeONEdSEVENeIXdTHREEeWOdZEROkLETTER AbBA",
    "cCAcDAcGAcHAbTAdIbKAbHAdLAcMAcNAbGAcYAdOEbOcPAbHAdRAcSAbHAdTAbHAdVAcWA",
    "cYAcZAjSIGN CWIdSHYAjTONE CALYAa PLOPHUmPLOPHUlVOWEL EaEcObUaE",
    "qELVIN SIGNjYaBOARDa AND MOUSEpCAP TENjHAROSHTHI DIGIT FOUReONEdTHREEeWO",
    "jFRACTION ONE HALFrLETTER AbBAbHAdCAbHAdDAbDAbHAdHAdGAbHAdHAcJAcKAbHAcKA",
    "dLAcMAcNAbNAcYAdPAbHAdRAcSAbHAcSAdTAbHAcTAbHAcTAbHAfVAbHAdYAcZA",
    "jNUMBER ONE HUNDREDhTHOUSANDmTENcWENTYnPUNCTUATION CIRCLEfRESCENT BAR",
    "mDANDAeOTbUBLE DANDAmLINESeOTUSfMANGALAMiSMALL CIRCLEySIGN ANUSVARA",
    "iBAR ABOVEjCAUDAfDOT BELOWhUBLE RING BELOWrVISARGAmVIRAMA",
    "fOWEL LENGTH MARKlSIGN EbIbObUbVOCALIC Rz",
    "eITAN SMALL SCRIPT CHARACTER-18B00b1b2b3b4b5b6b7b8b9bAbBbCbDbEbFc10b1b2",
    "b3b4b5b6b7b8b9bAbBbCbDbEbFc20b1b2b3b4b5b6b7b8b9bAbBbCbDbEbFc30b1b2b3b4b5",
    "b6b7b8b9bAbBbCbDbEbFc40b1b2b3b4b5b6b7b8b9bAbBbCbDbEbFc50b1b2b3b4b5b6b7b8",
    "b9bAbBbCbDbEbFc60b1b2b3b4b5b6b7b8b9bAbBbCbDbEbFc70b1b2b3b4b5b6b7b8b9bAbB",
    "bCbDbEbFc80b1b2b3b4b5b6b7b8b9bAbBbCbDbEbFc90b1b2b3b4b5b6b7b8b9bAbBbCbDbE",
    "bFcA0b1b2b3b4b5b6b7b8b9bAbBbCbDbEbFcB0b1b2b3b4b5b6b7b8b9bAbBbCbDbEbFcC0",
    "b1b2b3b4b5b6b7b8b9bAbBbCbDbEbFcD0b1b2b3b4b5b6b7b8b9bAbBbCbDbEbFcE0b1b2b3",
    "b4b5b6b7b8b9bAbBbCbDbEbFcF0b1b2b3b4b5b6b7b8b9bAbBbCbDbEbFdC00b1b2b3b4b5",
    "b6b7b8b9bAbBbCbDbEbFc10b1b2b3b4b5b6b7b8b9bAbBbCbDbEbFc20b1b2b3b4b5b6b7b8",
    "b9bAbBbCbDbEbFc30b1b2b3b4b5b6b7b8b9bAbBbCbDbEbFc40b1b2b3b4b5b6b7b8b9bAbB",
    "bCbDbEbFc50b1b2b3b4b5b6b7b8b9bAbBbCbDbEbFc60b1b2b3b4b5b6b7b8b9bAbBbCbDbE",
    "bFc70b1b2b3b4b5b6b7b8b9bAbBbCbDbEbFc80b1b2b3b4b5b6b7b8b9bAbBbCbDbEbFc90",
    "b1b2b3b4b5b6b7b8b9bAbBbCbDbEbFcA0b1b2b3b4b5b6b7b8b9bAbBbCbDbEbFcB0b1b2b3",
    "b4b5b6b7b8b9bAbBbCbDbEbFcC0b1b2b3b4b5b6b7b8b9bAbBbCbDbEbFcD0b1b2b3b4b5",
    "pFILLERyMER CURRENCY SYMBOL RIELuDIGIT EIGHTfFIVEdOUReNINEeONEdSEVENeIX",
    "dTHREEeWOdZEROkINDEPENDENT VOWEL LYaYdQAAbIbQbUcEbIaIcOO TYPE ONEdTWOlU",
    "aKbUaVeRYaYvLETTER BAcCAbHAbOcOcDAbOcHAcKAbHAbOcOcLAbOcMOcNGOcNOcObYO",
    "dPHAbOcOcQAcROcSAbHAcSOdTAbHAbOcObTHAbOeVOcYOjSIGN AHSDAeTTHACAN",
    "hVAKRAHASANYAnBANTOCeRIYOOSANiTHAMASATjEYYALgCAMNUC PII KUUHoOENG",
    "fKAKABATgHANdOOMUUThLEK TOOhMUUSIKATOANlNIKAHIThPHNAEK MUANlREAHMUKgOBAT",
    "fSAMYOK SANNYAnTOANDAKHIATkRIISAPhVIRIAMgYUUKALEAPINTUrYMBOL BEI KOET",
    "eROCgUON KOETeROCiDAP KOETeROCe-BEI KOETeROCgUON KOETeROCiMUOY KOETeROC",
    "iPII KOETeROCgRAM KOETeROCmLEK ATTAK BEIcUONeMUOYePIIcRAMa-BEIcUONeMUOY",
    "ePIIiSONnMUOY KOETeROCiPATHAMASATjII KOETeROCgRAM KOETeROCe-BEI KOETeROC",
    "gUON KOETeROCiMUOY KOETeROCiPII KOETeROCmTUTEYASATqVOWEL INHERENT AAbQ",
    "lSIGN AAbEbIbUcEbIaEbIcOEbOcUaAbUcYaAbYrOJKI ABBREVIATION SIGNrDANDA",
    "eOUBLE DANDAfSECTION MARKtLETTER AaAbIbUcBAbBAcHAdCAbHAdDAbDAbDAcHAdHAdE",
    "bGAbGAcHAdHAcIbJAbJAdKAbHAdLAbLAdMAcNAbGAcNAcYAdObPAbHAdRAcSAcTAbHAcTA",
    "bHAeUbVAcYAjSECTION MARKlIGN ANUSVARAiNUKTAfSHADDAfUKUNfVIRAMA",
    "lVOWEL SIGN AAbIbUcEbIaIcObUmWORD SEPARATORtUDAWADI DIGIT EIGHTfFIVEdOUR",
    "eNINEeONEdSEVENeIXdTHREEeWOdZEROkLETTER AaAbIbUcBAbBAcHAdCAbHAdDAbDAbDA",
    "cHAdHAdEbGAbGAcHAdHAcIaIcJAbHAcJAdKAbHAdLAcMAcNAbGAcNAcYAdObPAbHAdRAbRA",
    "dSAbHAdTAbHAcTAbHAeUaUcVAcYAjSIGN ANUSVARAiNUKTAfVIRAMAlVOWEL SIGN AAbI",
    "bUcEbIaIcObUaUwIMONOeP SIGNgSSa MARKfING CAT FACE WITH CLOSED EYESzaFACE",
    "a WITH CLOSED EYESlSMILING EYESzdTEcWIFRUITiNEELING PERSONnOTdOALA",
    "dREAN STANDARD SYMBOLvRONOSgL B BAR SYMBOLnAB COATfEL",
    "dCROSSE STICK AND BALLvDDERdY BEETLEjNGUAGE TAGkO CANCELLATION MARK",
    "rDIGIT EIGHTfFIVEdOUReNINEeONEdSEVENeIXdTHREEeWOdZEROkELLIPSISiHO MOcNO",
    "fKO LAfLETTER BOcCOcDOcFO FAYcONdSUNGeTAMgHO SUNGeTAMgKHMU GOcNYOgO SUNG",
    "eTAMgOcLOa LINGdOOThMOcNGOcObYOdObPALI BHAdCHAdDDAbHAdHAdGHAdJHAdLLAdNNA",
    "cYAdTTAbHAiHO SUNGeTAMgOcROcSANSKRIT SHAcSAlO SUNGeTAMgTHO SUNGeTAMgOcWO",
    "cYOjNIGGAHITAjSEMIVOWEL SIGN LOcNYOrIGN PALI VIRAMAqTONE MAI CATAWAgEK",
    "cTHOcIlVOWEL SIGN AaAbIbMbYcEaIcIaIcMAI KANcONhObUaUcYaYpRGE BLUE CIRCLE",
    "gDIAMONDhSQUAREkROWN CIRCLEgSQUAREmCIRCLEgDOWN TACKjGREEN CIRCLEgSQUARE",
    "mLEFT TRIANGLE OPERATORwONE DOT OVER TWO DOTS PUNCTUATIONz",
    "eRING OVER TWO RINGS PUNCTUATIONzjRANGE CIRCLEgDIAMONDhSQUARE",
    "nPURPLE CIRCLEgSQUAREnRED CIRCLEgSQUAREkTRIPLE VERTICAL BAR OPERATORz",
    "cWO DOTS OVER ONE DOT PUNCTUATIONzeRINGS OVER ONE RING PUNCTUATIONz",
    "kUP TACKhYELLOW CIRCLEgSQUAREoR THANa OR EQUAL TOuI SIGNhST QUARTER MOON",
    "a SYMBOLgWITH FACEzaTIN CAPITAL LETTER Aa WITH ACUTEfBREVEa AND ACUTE",
    "fDOT BELOWjGRAVEfHOOK ABOVEkTILDEpCARONeIRCUMFLEXa AND ACUTEfDOT BELOW",
    "jGRAVEfHOOK ABOVEkTILDEuDIAERESISa AND MACRONtOT ABOVEa AND MACRONqBELOW",
    "hUBLE GRAVEmGRAVEfHOOK ABOVEkINVERTED BREVEoMACRONgOGONEKgRING ABOVE",
    "a AND ACUTEpBELOWkSTROKEgTILDElAbEa WITH ACUTEfMACRONnFRICAN DiLPHA",
    "eNGLICANA WkObUbVa WITH HORIZONTAL BARvYcBa WITH DOT ABOVEfBELOW",
    "jFLOURISHiHOOKeLINE BELOWkSTROKEgTOPBARmETAdROKEN LiCa WITH ACUTEfBAR",
    "dCARONeEDILLAa AND ACUTEqIRCUMFLEXkDOT ABOVEjHOOKePALATAL HOOKmSTROKEmHI",
    "cLOSED INSULAR GpONcUATRILLOa WITH COMMAuDa WITH CARONeEDILLA",
    "gIRCUMFLEX BELOWqDOT ABOVEfBELOWjHOOKeLINE BELOWkSHORT STROKE OVERLAY",
    "tMALL LETTER Za WITH CARONyTROKEgTOPBARmZa WITH CARONnEa WITH ACUTE",
    "fBREVEfCARONeEDILLAa AND BREVEqIRCUMFLEXa AND ACUTEfDOT BELOWjGRAVE",
    "fHOOK ABOVEkTILDEjBELOWqDIAERESISiOT ABOVEfBELOWhUBLE GRAVEmGRAVE",
    "fHOOK ABOVEkINVERTED BREVEoMACRONa AND ACUTEfGRAVEqOGONEKgSTROKEgTILDE",
    "a BELOWrGYPTOLOGICAL AINcLEFrNGcSHcTaHcZHa REVERSEDiWITH CARONoF",
    "a WITH DOT ABOVEjHOOKeSTROKEnGa WITH ACUTEfBREVEfCARONeEDILLAgIRCUMFLEX",
    "kDOT ABOVEjHOOKeMACRONgOBLIQUE STROKEoSTROKEmAMMAeHAcLOTTAL AbIbSTOPeUjH",
    "a WITH BREVE BELOWlCARONeEDILLAgIRCUMFLEXkDESCENDERiIAERESISiOT ABOVE",
    "fBELOWjHOOKeSTROKEmALF HfENGdWAIRfIa WITH ACUTEfBREVEfCARONeIRCUMFLEX",
    "kDIAERESISa AND ACUTEsOT ABOVEfBELOWhUBLE GRAVEmGRAVEfHOOK ABOVE",
    "kINVERTED BREVEoMACRONgOGONEKgSTROKEgTILDEa BELOWrNSULAR DbFbGbRbSbTiOTA",
    "dScJa WITH CIRCUMFLEXjROSSED-TAILmSTROKEnKa WITH ACUTEfCARONeEDILLA",
    "hDESCENDERiIAGONAL STROKEoOT BELOWjHOOKeLINE BELOWkOBLIQUE STROKEoSTROKE",
    "a AND DIAGONAL STROKEziLa WITH ACUTEfBARcELTeCARONeEDILLA",
    "gIRCUMFLEX BELOWqDOT BELOWa AND MACRONsUBLE BARkHIGH STROKElLINE BELOW",
    "kMIDDLE DOTdTILDEmSMALL LETTER JnTROKEmJcMa WITH ACUTEfDOT ABOVEfBELOW",
    "jHOOKkIDDLE SCOTS Si-WELSH LLcVoNa WITH ACUTEfCARONeEDILLA",
    "gIRCUMFLEX BELOWqDESCENDERiOT ABOVEfBELOWjGRAVEfLEFT HOOKiINE BELOW",
    "jONG RIGHT LEGoOBLIQUE STROKEoSMALL LETTER JoTILDElJcOa WITH ACUTEfBREVE",
    "fCARONeIRCUMFLEXa AND ACUTEfDOT BELOWjGRAVEfHOOK ABOVEkTILDEuDIAERESIS",
    "a AND MACRONtOT ABOVEa AND MACRONqBELOWhUBLE ACUTEfGRAVEmGRAVE",
    "fHOOK ABOVEiRNa AND ACUTEfDOT BELOWjGRAVEfHOOK ABOVEkTILDE",
    "oINVERTED BREVEoLONG STROKE OVERLAYrOPeMACRONa AND ACUTEfGRAVE",
    "pIDDLE TILDEmOGONEKa AND MACRONrSTROKEa AND ACUTEqTILDEa AND ACUTE",
    "fDIAERESISjMACRONwIbLD POLISH OlMEGAeObPEN EbOfUcPa WITH ACUTEfDOT ABOVE",
    "jFLOURISHiHOOKeSQUIRREL TAILmTROKEa THROUGH DESCENDERzgQ",
    "a WITH DIAGONAL STROKEpSTROKE THROUGH DESCENDERzgRa ROTUNDAhWITH ACUTE",
    "fCARONeEDILLAhDOT ABOVEfBELOWa AND MACRONsUBLE GRAVEmINVERTED BREVE",
    "oLINE BELOWkOBLIQUE STROKEoSTROKEgTAILkEVERSED C WITH DOTkEbHALF H",
    "gOPEN EoUM ROTUNDAlSa WITH ACUTEa AND DOT ABOVEtCARONa AND DOT ABOVE",
    "sEDILLAgIRCUMFLEXjOMMA BELOWlDOT ABOVEfBELOWa AND DOT ABOVExHOOK",
    "eOBLIQUE STROKEoSHORT STROKE OVERLAYtWASH TAILqALTILLOhCHWAdRIPT G",
    "hHARP SgIGMOID SiMALL CAPITAL IjQ WITH HOOK TAILwTa WITH CARONeEDILLA",
    "gIRCUMFLEX BELOWpOMMA BELOWlDIAGONAL STROKEoOT ABOVEfBELOWjHOOK",
    "eLINE BELOWkRETROFLEX HOOKoSTROKEmHORNa WITH STROKEa THROUGH DESCENDERz",
    "jONE FIVEeSIXdTWOhRESILLOhURNED AaLPHAfHbINSULAR GjKbLbMbTbVhZcUa BAR",
    "dWITH ACUTEfBREVEfCARONeIRCUMFLEXa BELOWqDIAERESISa AND ACUTEfCARON",
    "fGRAVEfMACRONkBELOWoOT BELOWhUBLE ACUTEfGRAVEmGRAVEfHOOK ABOVEiRN",
    "a AND ACUTEfDOT BELOWjGRAVEfHOOK ABOVEkTILDEoINVERTED BREVEoMACRON",
    "a AND DIAERESISuOGONEKgRING ABOVEkSTROKEgTILDEa AND ACUTEjBELOWrPSILONhV",
    "a WITH DIAGONAL STROKEoOT BELOWjHOOKeTILDElENDdISIGOTHIC ZlOLAPUK AEcOE",
    "cUEjYcWa WITH ACUTEfCIRCUMFLEXkDIAERESISiOT ABOVEfBELOWjGRAVEfHOOKkYNNeX",
    "a WITH DIAERESISiOT ABOVEqYa WITH ACUTEfCIRCUMFLEXkDIAERESISiOT ABOVE",
    "fBELOWjGRAVEfHOOKa ABOVEkLOOPeMACRONgSTROKEgTILDElOGHeZa WITH ACUTE",
    "fCARONeIRCUMFLEXkDESCENDERiOT ABOVEfBELOWjHOOKeLINE BELOWkPALATAL HOOK",
    "mSTROKEfWASH TAILxIGATURE IJcOEsROSSfEPIGRAPHIC LETTER ARCHAIC MjI LONGA",
    "gNVERTED MkREVERSED FbPkSIDEWAYS IzdLETTER AINcLVEOLAR CLICK",
    "oBIDENTAL PERCUSSIVErLABIAL CLICKfPERCUSSIVEtDENTAL CLICKmGLOTTAL STOP",
    "a WITH STROKEyINVERTED GLOTTAL STOPa WITH CURLeSTROKEziLATERAL CLICK",
    "nPHARYNGEAL VOICED FRICATIVEzcRETROFLEX CLICKa WITH RETROFLEX HOOKz",
    "iVERSED ESH LOOPiGLOTTAL STOP WITH STROKEziSINOLOGICAL DOT",
    "oMALL CAPITAL AaEcBaARRED BiCbDbEaTHcZHdFbGa WITH HOOKlHbIaNVERTED RkJbK",
    "bLa WITH BELTeSTROKEnMbNbOaEbPEN OfUcPbQbRa WITH RIGHT LEGpEVERSED NbR",
    "jUMdSbTaURNED EbGbKbMbRiUbVbWbYbZoTRETCHED Ca WITH CURLvTWO WITH STROKE",
    "pVOICED LARYNGEAL SPIRANTyWYNNeYRjSMALL CAPITAL LETTER I WITH STROKE",
    "nU WITH STROKEzdLETTER Aa REVERSED-SCHWAoWITH ACUTEfBREVEa AND ACUTE",
    "fDOT BELOWjGRAVEfHOOK ABOVEkTILDEpCARONeIRCUMFLEXa AND ACUTEfDOT BELOW",
    "jGRAVEfHOOK ABOVEkTILDEuDIAERESISa AND MACRONtOT ABOVEa AND MACRONqBELOW",
    "hUBLE GRAVEmGRAVEfHOOK ABOVEkINVERTED BREVEoMACRONgOGONEKgRETROFLEX HOOK",
    "nIGHT HALF RINGnNG ABOVEa AND ACUTEpBELOWkSTROKEgTILDElAbEa WITH ACUTE",
    "fMACRONnLPHAa WITH RETROFLEX HOOKyNGLICANA WkObUbVa WITH HORIZONTAL BAR",
    "vYcBa WITH DOT ABOVEfBELOWjFLOURISHiHOOKeLINE BELOWkMIDDLE TILDE",
    "mPALATAL HOOKmSTROKEgTOPBARmARRED ALPHAfEbOgSELINE ESHlETAdLACKLETTER E",
    "bOa WITH STROKEyOTTOM HALF OmROKEN LiCa WITH ACUTEfBARdCARONeEDILLA",
    "a AND ACUTEqIRCUMFLEXjURLeDOT ABOVEjHOOKePALATAL HOOKmRETROFLEX HOOK",
    "oSTROKEmHIa WITH LOW LEFT SERIFkRIGHT RINGwLOSED INSULAR GjOMEGAePEN E",
    "gREVERSED OPEN EvONcUATRILLOa WITH COMMAuDa WITH CARONeEDILLA",
    "gIRCUMFLEX BELOWpURLeDOT ABOVEfBELOWjHOOKa AND TAILnLINE BELOW",
    "kMIDDLE TILDEmPALATAL HOOKmSHORT STROKE OVERLAYtTROKEgTAILdOPBAR",
    "mB DIGRAPHjELTAdZH DIGRAPHa WITH PALATAL HOOKmRETROFLEX HOOKzgOTLESS IbJ",
    "a WITH STROKEa AND HOOKzdUBLE Ra WITH CROSSED-TAILtTHORNfWYNNkUMcZ",
    "a DIGRAPHa WITH CURLeRETROFLEX HOOKzcWITH CARONnEa WITH ACUTEfBREVE",
    "fCARONeEDILLAa AND BREVEqIRCUMFLEXa AND ACUTEfDOT BELOWjGRAVEfHOOK ABOVE",
    "kTILDEjBELOWqDIAERESISiOT ABOVEfBELOWhUBLE GRAVEmFLOURISHiGRAVE",
    "fHOOK ABOVEkINVERTED BREVEoMACRONa AND ACUTEfGRAVEqNOTCHfOGONEK",
    "gRETROFLEX HOOKoSTROKEgTILDEa BELOWrGYPTOLOGICAL AINcLEFrNG",
    "a WITH CROSSED-TAILmPALATAL HOOKuSHa WITH CURLeDOUBLE BARa AND CURL",
    "tPALATAL HOOKmRETROFLEX HOOKwTaHcZHa REVERSEDiWITH CARONeURL",
    "ePALATAL HOOKmRETROFLEX HOOKoTAILnFa WITH DOT ABOVEjHOOKeMIDDLE TILDE",
    "mPALATAL HOOKmSTROKEmENG DIGRAPHa WITH TRILLxGa WITH ACUTEfBREVEfCARON",
    "eEDILLAgIRCUMFLEXkDOT ABOVEjHOOKeMACRONgOBLIQUE STROKEoPALATAL HOOK",
    "mSTROKEmAMMAeHAcLOTTAL AbIbSTOPeUjHa WITH BREVE BELOWlCARONeEDILLA",
    "gIRCUMFLEXkDESCENDERiIAERESISiOT ABOVEfBELOWjHOOKeLINE BELOW",
    "kPALATAL HOOKmSTROKEmALF HfENGa WITH HOOKnVcIa WITH ACUTEfBREVEfCARON",
    "eIRCUMFLEXkDIAERESISa AND ACUTEsOT BELOWhUBLE GRAVEmGRAVEfHOOK ABOVE",
    "kINVERTED BREVEoMACRONgOGONEKgRETROFLEX HOOKoSTROKEa AND RETROFLEX HOOKz",
    "aTILDEa BELOWrNSULAR DbFbGbRbSbThVERTED ALPHAfOEkOTAa WITH STROKE",
    "nIFIED EjScJa WITH CARONeIRCUMFLEXjROSSED-TAILmSTROKEnKa WITH ACUTE",
    "fCARONeEDILLAhDESCENDERiIAGONAL STROKEoOT BELOWjHOOKeLINE BELOW",
    "kOBLIQUE STROKEoPALATAL HOOKmSTROKEa AND DIAGONAL STROKEzhRAdL",
    "a WITH ACUTEfBARcELTa AND PALATAL HOOKvCARONeEDILLAgIRCUMFLEX BELOWpURL",
    "eDOT BELOWa AND MACRONsUBLE BARdMIDDLE TILDEtFISHHOOKiHIGH STROKE",
    "lINVERTED LAZY SpLINE BELOWkMIDDLE DOTdRINGeTILDEmPALATAL HOOK",
    "mRETROFLEX HOOKa AND BELTxSTROKEmAMBDA WITH STROKErENIS FfZH",
    "a WITH RETROFLEX HOOKxJbONG Sa WITH DIAGONAL STROKEoOT ABOVEjHIGH STROKE",
    "wS DIGRAPHjUMcZ DIGRAPHkMa WITH ACUTEfCROSSED-TAILmDOT ABOVEfBELOWjHOOK",
    "eMIDDLE TILDEmPALATAL HOOKsIDDLE SCOTS Si-WELSH LLcVnUMdN",
    "a PRECEDED BY APOSTROPHEwWITH ACUTEfCARONeEDILLAgIRCUMFLEX BELOW",
    "pROSSED-TAILlURLeDESCENDERiOT ABOVEfBELOWjGRAVEfLEFT HOOKiINE BELOW",
    "jONG RIGHT LEGoMIDDLE TILDEmOBLIQUE STROKEoPALATAL HOOKmRETROFLEX HOOK",
    "oTILDElJbUMdOa WITH ACUTEfBREVEfCARONeIRCUMFLEXa AND ACUTEfDOT BELOW",
    "jGRAVEfHOOK ABOVEkTILDEuDIAERESISa AND MACRONtOT ABOVEa AND MACRONqBELOW",
    "hUBLE ACUTEfGRAVEmGRAVEfHOOK ABOVEiRNa AND ACUTEfDOT BELOWjGRAVE",
    "fHOOK ABOVEkTILDEoINVERTED BREVEoLONG STROKE OVERLAYrOPcW RING INSIDE",
    "pMACRONa AND ACUTEfGRAVEqOGONEKa AND MACRONrRETROFLEX HOOKoSTROKE",
    "a AND ACUTEqTILDEa AND ACUTEfDIAERESISjMACRONwIbLD POLISH OlMEGAeObPEN E",
    "a WITH RETROFLEX HOOKvOa WITH RETROFLEX HOOKoSTROKEmEgUcPa WITH ACUTE",
    "fDOT ABOVEjFLOURISHiHOOKeMIDDLE TILDEmPALATAL HOOKmSQUIRREL TAILmTROKE",
    "a THROUGH DESCENDERzfHIdQa WITH DIAGONAL STROKEpHOOKa TAIL",
    "jSTROKE THROUGH DESCENDERzfP DIGRAPHkRa ROTUNDAhWITH ACUTEfCARONeEDILLA",
    "gROSSED-TAILmDOT ABOVEfBELOWa AND MACRONsUBLE GRAVEmFISHHOOK",
    "a AND MIDDLE TILDEmPALATAL HOOKzaINVERTED BREVEoLINE BELOWjONG LEG",
    "iMIDDLE TILDEmOBLIQUE STROKEoPALATAL HOOKmSTROKEgTAILfOUT HANDLE",
    "pAMS HORNiEVERSED Ca WITH DOTkEaNGdHALF HgKbOPEN Ea WITH HOOK",
    "eRETROFLEX HOOKzbR WITH FISHHOOKpSCRIPT GqUMa ROTUNDAlSa WITH ACUTE",
    "a AND DOT ABOVEtCARONa AND DOT ABOVEsEDILLAgIRCUMFLEXjOMMA BELOWkURL",
    "eDOT ABOVEfBELOWa AND DOT ABOVExHOOKeMIDDLE TILDEmOBLIQUE STROKE",
    "oPALATAL HOOKmSHORT STROKE OVERLAYtWASH TAILqAKHA YAThLTILLOhCHWA",
    "a WITH HOOKeRETROFLEX HOOKxRIPT Ga WITH CROSSED-TAILtRa WITH RINGrHARP S",
    "gIDEWAYS DIAERESIZED UnOa WITH STROKEmPEN OgTURNED MiUiGMOID S",
    "iQUAT REVERSED ESHrTIRRUP RjTa WITH CARONeEDILLAgIRCUMFLEX BELOW",
    "pOMMA BELOWkURLeDIAERESISgGONAL STROKEoOT ABOVEfBELOWjHOOK",
    "a AND RETROFLEX HOOKxLINE BELOWkMIDDLE TILDEmPALATAL HOOKmRETROFLEX HOOK",
    "oSTROKEmAILLESS PHIlC DIGRAPH WITH CURLtESH DIGRAPHa WITH PALATAL HOOK",
    "mRETROFLEX HOOKzgH WITH STRIKETHROUGHtORNa WITH STROKE",
    "a THROUGH DESCENDERzjONE FIVEeSIXdTWOgP HALF OjRESILLOhS DIGRAPH",
    "a WITH RETROFLEX HOOKzeUMbRNED AaEbLPHAfDELTAfEbGbHa WITH FISHHOOK",
    "a AND TAILyIaNSULAR GjKbLbMa WITH LONG LEGpO OPEN-Oa WITH STROKEtE",
    "a WITH HORIZONTAL STROKErSTROKEnPEN EgRa WITH HOOKeLONG LEG",
    "a AND RETROFLEX HOOKzcMIDDLE TILDEmPALATAL HOOKmTAILlTa WITH CURLlUIcVbW",
    "bYa WITH BELTrZcUa BARa WITH SHORT RIGHT LEGyWITH ACUTEfBREVEfCARON",
    "eIRCUMFLEXa BELOWqDIAERESISa AND ACUTEfCARONfGRAVEfMACRONkBELOWoOT BELOW",
    "hUBLE ACUTEfGRAVEmGRAVEfHOOK ABOVEiRNa AND ACUTEfDOT BELOWjGRAVE",
    "fHOOK ABOVEkTILDEoINVERTED BREVEoLEFT HOOKjMACRONa AND DIAERESISuOGONEK",
    "gRETROFLEX HOOKnING ABOVEkSHORT RIGHT LEGoTROKEgTILDEa AND ACUTEjBELOWrE",
    "bIbMbObPSILONa WITH STROKEtVa WITH CURLeDIAGONAL STROKEoOT BELOWjHOOK",
    "ePALATAL HOOKmRIGHT HOOKkTILDElENDdISIGOTHIC ZlOLAPUK AEcOEcUEjYcW",
    "a WITH ACUTEfCIRCUMFLEXkDIAERESISiOT ABOVEfBELOWjGRAVEfHOOKeRING ABOVErX",
    "a WITH DIAERESISiOT ABOVEjLONG LEFT LEGa AND LOW RIGHT RINGsWITH SERIF",
    "wW RIGHT RINGoPALATAL HOOKtYa WITH ACUTEfCIRCUMFLEXkDIAERESISiOT ABOVE",
    "fBELOWjGRAVEfHOOKa ABOVEkLOOPeMACRONgRING ABOVEkSHORT RIGHT LEGoTROKE",
    "gTILDElOGHeZa WITH ACUTEfCARONeIRCUMFLEXjURLeDESCENDERiOT ABOVEfBELOW",
    "jHOOKeLINE BELOWkMIDDLE TILDEmPALATAL HOOKmRETROFLEX HOOKoSTROKE",
    "fWASH TAILxIGATURE FFaIbLcIbLcIJcLONG S TiOEcSTqUBSCRIPT SMALL LETTER A",
    "bEbHbIbJbKbLbMbNbObPbRbSaCHWAfTbUbVbXzeEAF FLUTTERING IN WINDtY GREEN",
    "jDGEReFT AND LOWER AND RIGHT TRIANGULAR THREE QUARTERS BLOCKz",
    "qONE EIGHTH BLOCKwRIGHT DOUBLE TURNSTILEqTACKdRIANGULAR HALF BLOCKz",
    "cUPPER AND RIGHT TRIANGULAR THREE QUARTERS BLOCKzqONE EIGHTH BLOCK",
    "yGER BUBBLEjLE BRACKETa WITH DOTvRC LESS-THAN BRACKET",
    "tROW WITH CIRCLED PLUSmSMALL CIRCLExBARB DOWN RIGHT BARB DOWN HARPOON",
    "mUP HARPOONzbUP RIGHT BARB DOWN HARPOONmUP HARPOONz",
    "dLACK LENTICULAR BRACKETsTORTOISE SHELL BRACKETzdCEILINGgLOSED ENTRY",
    "lORNER BRACKETnURLY BRACKETa LOWER HOOKkMIDDLE PIECEmUPPER HOOK",
    "yDOTTED SUBSTITUTION BRACKETzaUBLE ANGLE BRACKETnPARENTHESIS",
    "lQUOTATION MARKoWIGGLY FENCEtFISH TAILhVE EIGHTHS BLOCKrLOOR",
    "fHALF BLACK CIRCLEgSTARiOCKfCIRCLEa WITH DOTdFOUR DOTSjTHREE DOTS",
    "jWO DOTSuFOLDERgINVERSE MEDIUM SHADE AND RIGHT HALF BLOCKzqMEDIUM SHADE",
    "mRUNNING MANoND TELEPHONE RECEIVERxLOW PARAPHRASE BRACKETvUGGAGE",
    "hMULTIMAPiNORMAL FACTOR SEMIDIRECT PRODUCTzhONE EIGHTH BLOCK",
    "mQUARTER BLOCKqUTER JOINkPARENTHESISa EXTENSIONjLOWER HOOKkUPPER HOOK",
    "wRAISED OMISSION BRACKETwIGHT ARROWa THROUGH SMALL CIRCLE",
    "uWITH DOUBLE VERTICAL STROKEwSTROKEgVERTICAL STROKEzbBLACK ARROW",
    "lDOUBLE ARROWa WITH STROKEgVERTICAL STROKEziOPEN-HEADED ARROW",
    "rSANS-SERIF ARROWqTRIANGLE-HEADED ARROWvWAVE ARROWjHITE ARROW",
    "rS-SHAPED BAG DELIMITERvEMIDIRECT PRODUCTqVEN EIGHTHS BLOCK",
    "sIDEWAYS U BRACKETqNGLE QUOTATION MARKuPEECH BUBBLEmQUARE BRACKET",
    "a EXTENSIONjLOWER CORNERmUPPER CORNERmWITH DOUBLE STROKEnQUILLfSTROKE",
    "gTICK IN BOTTOM CORNERnTOP CORNERsUNDERBARzcUBSTITUTION BRACKETuTACK",
    "dHIRD WHITE RIGHT POINTING INDEXzfOUGHT BUBBLEmREE EIGHTHS BLOCK",
    "nQUARTERS BLOCKtORTOISE SHELL BRACKETvRANSPOSITION BRACKET",
    "tIANGLE BESIDE VERTICAL BARwULAR ONE QUARTER BLOCKz",
    "dVERTICAL BAR WITH QUILLnOX LINErWHITE CORNER BRACKETnURLY BRACKET",
    "nLENTICULAR BRACKETsPARENTHESISlSQUARE BRACKEToTORTOISE SHELL BRACKETz",
    "cIGGLY FENCElRITING HANDn-FACING ARMENIAN ETERNITY SIGNwFISTeSVASTI SIGN",
    "a WITH DOTSzdHANDED INTERLACED PENTAGRAMzcPOINTING ANGLE BRACKET",
    "nCURVED ANGLE BRACKETuDOUBLE ANGLE QUOTATION MARKzcMAGNIFYING GLASSz",
    "aSHADED WHITE RIGHTWARDS ARROWzdIDE ARC ANTICLOCKWISE ARROWz",
    "dTO-RIGHT EMBEDDINGjISOLATEhMARKeOVERRIDEsWARDS ARROW",
    "a ABOVE ALMOST EQUAL TOpREVERSE ALMOST EQUAL TOpTILDE OPERATOR",
    "wSHORT RIGHTWARDS ARROWwTILDE OPERATOR",
    "tND UPPER AND LOWER ONE EIGHTH BLOCKzlFROM BARa TO BLACK DIAMONDz",
    "aOVER RIGHTWARDS ARROWvTHROUGH LESS-THANjSUBSETgXiO BAR",
    "a OVER RIGHTWARDS ARROW TO BARzgLACK DIAMONDqWITH DOTTED STEM",
    "jUBLE VERTICAL STROKEwEQUILATERAL ARROWHEADvHOOK",
    "eLARGE TRIANGLE ARROWHEADxOOPeMEDIUM TRIANGLE ARROWHEADzaNOTCHED TAIL",
    "mPLUS BELOWkSMALL EQUILATERAL ARROWHEADvTRIANGLE ARROWHEADxTROKEgTAIL",
    "a WITH DOUBLE VERTICAL STROKEwVERTICAL STROKEyIP DOWNWARDSjUPWARDS",
    "lVERTICAL STROKEv-TAILkBACK-TILTED SHADOWED WHITE ARROWzgLACK ARROW",
    "fCIRCLED WHITE ARROWyOTTOM-SHADED WHITE ARROWzaCOMPRESSED ARROW",
    "qDASHED ARROWlOUBLE ARROWa FROM BARiWITH STROKEgVERTICAL STROKEv-TAIL",
    "kDASH ARROWrFINGER-POST ARROWqRONT-TILTED SHADOWED WHITE ARROWziHAND",
    "cRPOON OVER RIGHTWARDS HARPOON",
    "xWITH BARB DOWN ABOVE RIGHTWARDS HARPOON WITH BARB DOWNzoBELOW LONG DASH",
    "pFROM BARiTO BARhWARDSjUP ABOVE LEFTWARDS HARPOON WITH BARB DOWNz",
    "gONG DASHjRIGHTWARDS HARPOON WITH BARB UPzmFROM BARiTO BARhWARDS",
    "yEAVY ARROWfCOMPRESSED ARROWwLEFT-SHADED WHITE ARROWxOPEN-HEADED ARROW",
    "rPAIRED ARROWSnQUADRUPLE ARROWpRIGHT-SHADED WHITE ARROWxOCKET",
    "gSANS-SERIF ARROWpQUARED ARROWkIGGLE ARROWoTOP SHADED WHITE ARROW",
    "vRIANGLE ARROWHEADk-HEADED ARROWa OVER RIGHTWARDS TRIANGLE-HEADED ARROWz",
    "mTO BARgWITH BOLD SHAFTkDOUBLE HORIZONTAL STROKErVERTICAL STROKE",
    "wHEAVY SHAFTlLONG TIP DOWNWARDSjUPWARDSqMEDIUM SHAFTmNARROW SHAFT",
    "mVERY HEAVY SHAFTzcDASHED ARROWmPAIRED ARROWSzbPLE ARROWfDASH ARROW",
    "qWO HEADED ARROWn-HEADED ARROW FROM BARiWITH DOUBLE VERTICAL STROKEwTAIL",
    "a WITH DOUBLE VERTICAL STROKEwVERTICAL STROKEyRIANGLE ARROWHEADS",
    "tVERTICAL STROKEzbTRIPLE DASH ARROWzdWAVE ARROWjHITE ARROW",
    "a WITHIN TRIANGLE ARROWHEADzuGbMONdOaPARDfPCHA CONSONANT SIGN KaANGeLbM",
    "bNaYIN-DOhPbRbTqDIGIT EIGHTfFIVEdOUReNINEeONEdSEVENeIXdTHREEeWOdZERO",
    "kLETTER AbBAbLAdCAbHAdDAbDAcZAdFAbLAdGAbLAdHAbLAdJAcKAbHAcLAdLAcMAbLAdNA",
    "bGAcYAdPAbHAcLAdRAcSAbHAdTAbHAcSAbHAdTAbHAeVAcWAcYAjPUNCTUATION CER-WA",
    "gNYET THYOOM TA-ROLsTA-ROLfSHOOKa CER-WAzaSIGN NUKTAfRAN",
    "hUBJOINED LETTER RAcYAtVOWEL SIGN AAcEbIbOaOcUaU",
    "sSS-THAN ABOVE DOUBLE-LINE EQUAL ABOVE GREATER-THANz",
    "lGREATER-THAN ABOVE DOUBLE-LINE EQUALzlLEFTWARDS ARROW",
    "pSIMILAR ABOVE GREATER-THANsOR EQUAL",
    "pLANTED EQUAL ABOVE GREATER-THAN ABOVE SLANTED EQUALzz",
    "hND NOT APPROXIMATEpSINGLE-LINE NOT EQUAL TOzdBUT NOT EQUAL TO",
    "fIVALENT TOvCLOSED BY CURVEa ABOVE SLANTED EQUALz",
    "kEQUAL TO OR GREATER-THANyOR APPROXIMATElEQUAL TOfIVALENT TO",
    "nGREATER-THANmSLANTED EQUAL TOa WITH DOT ABOVEa RIGHTlINSIDEz",
    "jVER EQUAL TOnSIGNeWITH CIRCLE INSIDEnDOTdQUESTION MARK ABOVEz",
    "hVEL SLIDERlFbIBRAdGATURE OPEN ET ORNAMENTwHT CHECK MARK",
    "kEIGHT SPOKED ASTERISKvFIVE POINTED BLACK STARsSPOKED ASTERISK",
    "tOUR POINTED BLACK CUSPeSTARxGREEK CROSS",
    "lLEFT TORTOISE SHELL BRACKET ORNAMENTzlRAIL",
    "dIGHT TORTOISE SHELL BRACKET ORNAMENTzmSALTIREgHADEeIX SPOKED ASTERISK",
    "tTHREE POINTED BLACK STARxWELVE POINTED BLACK STARzaVERTICAL BAR",
    "mWHITE SQUAREnNINGa MOODa BUBBLEtMBU DIGIT EIGHTfFIVEdOUReNINEeONEdSEVEN",
    "eIXdTHREEeWOdZEROkEXCLAMATION MARKqLETTER BAbHAdCAbHAdDAbHAdGAbHAcYANeHA",
    "cJAbHAdKAbHAdLAcMAcNAbGAdPAbHAdRAcSAbHAcSAdTAbHAcRAdWAcYAaN",
    "kQUESTION MARKnSIGN KEMPHRENGjLOOdMUKPHRENGjSA-IiMALL LETTER ANUSVARAiKA",
    "cLAcMAcNAbGAdPAcRAcTAoUBJOINED LETTER RAcWAcYAtVOWEL SIGN AaIbUcEaEcIbO",
    "aOcUh-CARRIER LETTERxITED LIABILITY SIGNuNE FEED",
    "eINTEGRATION NOT INCLUDING THE POLEwWITH RECTANGULAR PATH AROUND POLEz",
    "dSEMICIRCULAR PATH AROUND POLEzvSEPARATORjTABULATIONa SET",
    "pAR A SIGN A028Be100-102g20Bd31Ce301b2b3b4b5b6b7b8b9AbBbCd10b1b2b3AbBbC",
    "c4b5b6b7b8b9c20b1b2b3b4b5b6b7b8b9c30b1b2b3b4b5b6b7b8b9c40b1b2b3b4b5b6b7",
    "b8b9c50b1b2b3b4b5b6b7b8b9c60b1b2b3b4b5b6b7b8b9c70b1d400-VASf1-VASf2-VAS",
    "f3-VASf4-VASf5-VASf6-VASf7-VASf8-VASf9-VASg10-VASf1-VASf2-VASf3-VAS",
    "f4-VASf5-VASf6-VASf7-VASf8-VASh501b2b3b4b5b6b8b9c10b1b2b3b5b6c20b1b3b4b5",
    "b6b7b8b9c30b1b2b4b5b6b7b8b9c40b1b2b5b7b8b9c50b1b2b3b4b5b6b7b9c63b4b5b6b8",
    "b9c70b1b2b3b4b5b6b7b8b9c80b1b2b3b4b5b6b7b8b9c91b2b4b5b6b8d600b1b2b3b4b6",
    "b8b9c10b1b2b3b4b5b6b7b8b9c20b1b2b3b4b6b7b8b9c34b7b8c40b2b3b4b5b6b8b9c51",
    "b2b3b4b5b6b7b8b9c60b1b2b3b4d701 Ad2 Bd3 Dd4 Ed5 Fd6 Hd7 Jd8 Kd9 Lc-2 L2",
    "e3 L3e4 L4e6 L6h10 Wd1 Xd2 Yd3 OMEGAh4 ABBf5 BBe7 DDf26 EYYYh32 JEg800b1",
    "b2b3b4b5b6b7dB001b2b3b4b5b6b7b8b9c10b1b3b6b7c20b1aFbMc2aFbMc3aMc4b6b7b8",
    "b9c30b1b4b7b8b9c40b1b4b5b6b7b8b9c50b1b3b4b5b6b7b8b9c60b1b5b6b7b9c70b3b4",
    "b6b7b8b9c80b1b2b5b6b7d118c20b2b3c31AbBd64c71c80b8c91mB IDEOGRAM B100 MAN",
    "f2 WOMANh4 DEERg5 EQUIDgF MAREgM STALLIONl6F EWEfM RAMg7F SHE-GOAT",
    "kM HE-GOATk8F SOWfM BOARh9F COWfM BULLi20 WHEATh1 BARLEYi2 OLIVEh3 SPICE",
    "h5 CYPERUSk30 OILf1 WINEg2c40 BRONZEi1 GOLDg2b5 WOOLg6c50b1 HORNg2b3b4b7",
    "b8b9 CLOTHi60b1b2 GARMENTj3 ARMOURi4b5b6b7b8b9c70b1b2b3 MONTHh4b6 TREEg7",
    "b8b9c80b1b2b3b4b5b9c90b1 HELMETk220 FOOTSTOOLl5 BATHTUBk30 SPEARh1 ARROW",
    "h2b3 SWORDh4b6c40 WHEELED CHARIOTr1 CHARIOTj2 CHARIOT FRAMEp3 WHEELh5b6",
    "b8b9c51b2b3b4 DARTg5b6b7b8b9eVESSEL B155d200b1b2b3b4b5b6b7b8b9c10b1b2b3",
    "b4b5b6b7b8b9c21b2b6b7b8b9c50d305uMONOGRAM B127 KAPOg8 KANAKOj33 AREPA",
    "h5 MERIh56 TURO2j247 DIPTEtSYLLABLE B001 DAe2 ROe3 PAe4 TEe5 TOe6 NA",
    "e7 DIe8 Ad9 SEf10 Ud1 POe2 SOe3 MEe4 DOe5 MOe6 QAe7 ZAf20 ZOe1 QIe3 MU",
    "e4 NEe5 A2e6 RUe7 REe8 Id9 PU2g30 NIe1 SAe2 QOe3 RA3f6 JOe7 TIe8 Ed9 PI",
    "f40 WIe1 SIe2 WOe3 A3e4 KEe5 DEe6 JEe8 NWAg50 PUe1 DUe2 NOe3 RIe4 WA",
    "e5 NUe7 JAe8 SUe9 TAf60 RAe1 Od2 PTEf5 JUe6 TA2f7 KIe8 RO2f9 TUf70 KO",
    "e1 DWEf2 PEe3 MIe4 ZEe5 WEe6 RA2f7 KAe8 QEf80 MAe1 KUe5 AUe7 TWEg90 DWO",
    "f1 TWOpMBOL B018b9c22c34c47b9c56c63b4c79c82b3b6b9rK SYMBOLhED PAPERCLIPS",
    "pON FACEhPSaTICKgRA SIGNhSU LETTER AaEcBAcCAbHAdDAbZAdEaUcFAcGAbHAdHAbHA",
    "dIbJAcKAbHAdLAcMAcNAbGAdOaEcPAbHAdSAbHAdTAbHAcONE MYA BOcCYAdJEUdNAcTI",
    "gNA POjSAbHAeUaEbHcWAcXAcYAbHAdZAbHAkPUNCTUATION COMMAfFULL STOP",
    "yVRE TOURNOIS SIGNrZARDfLAMAeOBSTERfCKa WITH INK PENnING-SHIFT ONEdZERO",
    "qGICAL ANDa WITH DOT ABOVEhUBLE OVERBARhUNDERBARpHORIZONTAL DASH",
    "pMIDDLE STEMlUNDERBARrORa OVERLAPPING LOGICAL ANDxWITH DOT ABOVE",
    "hUBLE OVERBARhUNDERBARpHORIZONTAL DASHpMIDDLE STEMzaLLIPOP",
    "gNG DASH FROM LEFT MEMBER OF DOUBLE VERTICALzoIVISIONhRUM",
    "eLEFT RIGHT ARROWfDOUBLE ARROWsTACKfWARDS ARROWa FROM BARoDOUBLE ARROW",
    "a FROM BARvSQUIGGLE ARROWyRIGHT TACKfWARDS ARROWa FROM BARoDOUBLE ARROW",
    "a FROM BARvSQUIGGLE ARROWzdTION BOTTLEkUSdUDLY CRYING FACEqVE HOTEL",
    "fLETTERjW ASTERISKiBATTERYgRIGHTNESS SYMBOLrDOUBLE PRIME QUOTATION MARKz",
    "cKAVYKAa WITH DOTpLINEfER BLADE SCISSORSoFIVE EIGHTHS BLOCKsHALF BLOCK",
    "fCIRCLEgINVERSE WHITE CIRCLEuMEDIUM SHADErLEFT BALLPOINT PEN",
    "mLOCK DIAGONAL LOWER MIDDLE LEFT TO LOWER CENTREgRIGHTz",
    "hUPPER CENTRE TO LOWER MIDDLE RIGHTmRIGHTlUPPER MIDDLE RIGHTz",
    "dLEFT TO LOWER CENTREgMIDDLE RIGHTsUPPER MIDDLE RIGHTz",
    "bMIDDLE LEFT TO LOWER CENTREgMIDDLE RIGHTmRIGHTzwCRAYONgFOUNTAIN PEN",
    "mPAINTBRUSHjENCILgQUADRANT CIRCULAR ARCvSEMICIRCULAR ANTICLOCKWISE ARROW",
    "zhTRIANGLEcULAR MEDIUM SHADEzdONE EIGHTH BLOCKmQUARTER BLOCK",
    "rRIGHT BLOCK DIAGONAL LOWER CENTRE TO LOWER MIDDLE RIGHT",
    "sUPPER MIDDLE RIGHTmRIGHTvLEFT TO LOWER MIDDLE RIGHTsUPPER CENTRE",
    "gMIDDLE RIGHTzbMIDDLE LEFT TO UPPER CENTREgMIDDLE RIGHTmRIGHTz",
    "hUPPER MIDDLE LEFT TO UPPER CENTREgRIGHTzwCORNER WITH DOT",
    "pDROP-SHADOWED WHITE SQUAREzbPENCILgQUADRANT CIRCULAR ARC",
    "vSEMICIRCULAR CLOCKWISE ARROWzcHADOWED WHITE CIRCLEgSQUAREvTRIANGLE",
    "cULAR MEDIUM SHADEzeSEVEN EIGHTHS BLOCKtTHREE EIGHTHS BLOCK",
    "nQUARTERS BLOCKtRIANGULAR ONE QUARTER BLOCKzhZENGE",
    "a DIVIDED BY HORIZONTAL RULEziREbIbMbOcUGGAGEfNGSeYCIAN LETTER AaNcBaHcD",
    "bEaNcGbHbIbJbKaKcLbMaMcNaNcPbQbRbSbTaHbTcUbWbXbZnDIAN LETTER AaNcBbCbDbE",
    "aNcFbGbIbKbLaYcMbNaNcObQbRbSaScTaTcUbVbYiTRIANGULAR MARKuING FACE"]

end Chip8.Text.CharacterName
