/-!
# Names of characters from P to S

The names and other names of characters that begin with these letters, written
as the module `Chip8.Text.CharacterName` says.
-/

namespace Chip8.Text.CharacterName

def namesPToS : List String := [
    "aPACKAGEfDaDING CHARACTERpGEa FACING UPjWITH CIRCLED TEXTlURLkRbScODA",
    "eHAWH HMONG CLAN SIGN FAJdHAMbWJeKHABdOOcWMdLAUJdISdMUASePHABeTHOJdSAB",
    "cHEEJeWBeVAJcWJdXYOOJfYAJcEEGnONSONANT AUcCAUcHAUeHAUcLAUdNAUeLAUdMAU",
    "dNAUcCHAUeKAUdLAUdTHAUdSAUfPLHAUfQHAUeRAUdVAUdXAUdYAUnDIGIT EIGHTfFIVE",
    "dOUReNINEeONEdSEVENeIXdTHREEeWOdZEROkMARK CIM HOMdKEScHAVeSObUAMeTAUMdUB",
    "mNUMBER HUNDRED MILLIONSjSiMILLIONSiTEN BILLIONSiTHOUSANDSkSdRILLIONS",
    "qSIGN AVcCIM CHEEMeUAM TSHOOJlHAIS LUS NTOG NTOGsNRES TOSiPUB DAWB",
    "iTSOV ROGhXWVa CHWVnHLIcNUBeIB YAMgLOSdMEEJ SUABeTSEEBjUSdNQIGdTUJeTAU",
    "cHIRD-STAGE HLIoXHEEJ CEEVlVOS FEEMeLUBdNRUAeSEEVeTHIABdOMdSHAB CEEB",
    "oXAUSdIABdYEEM FAIBeNTXIVfRHOdTOVhOOeZWJ THAJnVOWEL KAABbVcBbIBbVcUBbVcV",
    "bWBbVdEBbEBbVcVcIABbVcBbVcOBbOBbVcVcUABbVcBbVcWBbVuLLASdM BRANCH",
    "gDOWN HANDjTREEeUP HANDiS UP TOGETHERnYRENE LEFT-POINTING FLEURON",
    "tTTER ALEPHeYINeBETHeDALETHgFINAL NUNjGIMELfHEaTHeKAPHeLAMEDHgMEMdNUNdPE",
    "cQOPHeRESHeSADHEdMEKHfHINeTAWcETHeWAWdYODHeZAYINmNUMBER FIVEdOUReONEdTEN",
    "cHREEeWENTYeOkRIGHT-POINTING FLEURONzfNCAKESfDA FACEiPERCLIPhRACHUTE",
    "fGRAPH SEPARATORkOScUS MARKmLLEL TOcWITH HORIZONTAL STROKE",
    "rTILDE OPERATORzaENTHESIZED DIGIT EIGHTfFIVEdOUReNINEeONEdSEVENeIXdTHREE",
    "eWOjHANGUL CHIEUCHa AiIEUCa AbUhHIEUHa AhIEUNGa AhKHIEUKHa AiIYEOKa A",
    "iMIEUMa AhNIEUNa AhPHIEUPHa AiIEUPa AhRIEULa AhSIOSa AgTHIEUTHa AiIKEUT",
    "a ApIDEOGRAPH ALLIANCEiCALLdONGRATULATIONoEARTHeIGHTeNTERPRISEkFESTIVAL",
    "hINANCIALhREcVEdOUReHAVEeLABORfMETALeOONeNAMEdINEeONEdREACHdPRESENT",
    "hSOURCEfTeSELFcVENeIXcOCIETYgPECIALgTOCKdUDYeUNbPERVISEjTENcHREEeWO",
    "dWATEReOODoKOREAN CHARACTER O HUdJEONwLATIN CAPITAL LETTER AbBbCbDbEbFbG",
    "bHbIbJbKbLbMbNbObPbQbRbSbTbUbVbWbXbYbZqSMALL LETTER AbBbCbDbEbFbGbHbIbJ",
    "bKbLbMbNbObPbQbRbSbTbUbVbWbXbYbZuNUMBER EIGHTEENhLEVENgFIFTEENgOURTEEN",
    "iNINETEENiSEVENTEENiIXTEENhTENcHIRTEENhWELVEdNTYyROTdT ALTERNATION MARK",
    "rIAL DIFFERENTIALmLINE BACKWARDiDOWNeFORWARDhUPiLY-RECYCLED PAPER SYMBOL",
    "zcNERSHIP SIGNmY POPPERkSSED SYMBOLiNGER SHIP",
    "kIVE-PULL-DOWN-OUTPUT SYMBOLsUP-OUTPUT SYMBOLzaPORT CONTROL",
    "oU CIN HAU GLOTTAL STOPa FINALfVARIANTuLETTER AbBAcCAbHAdDAcEbFAbINAL K",
    "bLbMbNaGcPbTbWbYhGAcHAcIaAcKAbHAdLAcMAcNAbGAdObPAbHAdRAcSAcTAbHAdUaAcVA",
    "cZAiOW-FALLING TONEa FINALfLONGa FINALzcMID-LEVEL TONEa FINALfLONG FINAL",
    "zaRISING TONEa FINALfLONGa FINALwSANDHI GLOTTAL STOPa FINALsTONEa FINAL",
    "fLONGa FINALzhW PRINTSjDFbIcEACE SYMBOLiHbOCKeNUTSeRcDESTRIAN",
    "iN OVER STAMPED ENVELOPEwCILdGUINeSIVE FACEjTAGRAMhOPLE HUGGING",
    "mR MILLE SIGNkSIGNeTEN THOUSAND SIGNsCENT SIGNjFORMING ARTS",
    "mMANENT PAPER SIGNrPENDICULARa WITH SrSEVERING FACEmON BOWING DEEPLY",
    "nCLIMBINGiDOING CARTWHEELpFROWNINGiIN LOTUS POSITIONoSTEAMY ROOM",
    "oRAISING BOTH HANDS IN CELEBRATIONziWITH BALLdLOND HAIRkCROWN",
    "fFOLDED HANDSmHEADSCARFjPOUTING FACEsAL COMPUTERnPECTIVEjSETA SIGN",
    "iO SIGNhTRI DISHjHAGS-PA DOUBLE HEAD MARKqLETTER AaLTERNATE YA",
    "lSPIRATED FAmBAcCAaNDRABINDUkHAdDAbDAcZAdEaEcFAcGAbGAdHAcIbJAcKAbHAdLA",
    "cMAcNAbGAcNAcYAdObPAbHAdQAcRAcSAbHAcMALL AhTAbHAcSAbHAdTAbHAeUbVOICED HA",
    "eLESS SHAnWAcXAcYAcZAbHAkMARK DOUBLE SHADlSHADjSINGLE HEAD MARK",
    "pUBJOINED LETTER RAcWAcYArPERFIXED LETTER RAzbISTOS DISC SIGN ARROWfBEE",
    "aHIVEgOOMERANGhWcULLS LEGjCAPTIVEfRPENTRY PLANEnTcHILDeLUBdOLUMNeMB",
    "aINING OBLIQUE STROKEyDOLIUMeVEeEAGLEfFLUTEfGAUNTLEThRATERgHELMETfIDE",
    "dORNeLIDbLYeMANACLESgTTOCKhOX BACKhPAPYRUSgEDESTRIANjLANE TREEiUMED HEAD",
    "lRAMcOSETTEhSAWcHIELDdPdLINGeMALL AXEiTRAINERiTATTOOED HEADmIARAeUNNY",
    "fVINEeWAVY BANDiOMANwILIPPINE DOUBLE PUNCTUATIONsSINGLE PUNCTUATIONz",
    "cOENICIAN LETTER AINcLFdBETdDELTeGAMLeHEaTdKAFdLAMDeMEMdNUNdPEcQOFdROSH",
    "eSADEdEMKdHINeTAUcETdWAUdYODdZAIkNUMBER ONEa HUNDREDlTENcHREEeWENTYeO",
    "kWORD SEPARATORwLUSfICKaUP TRUCKkEbGa FACEeNOSEgLCROW SIGNjE OF POOiL",
    "cNATAdCHED FINGERSkING HANDkE DECORATIONlAPPLEgWHEEL STARlSCESdTOL",
    "eTCHFORKa WITH TEE TOPvLACARDdE OF INTEREST SIGNnWORSHIPnNCK CONSTANT",
    "a OVER TWO PIyYGROUND SLIDEmING CARD ACE OF CLUBSfDIAMONDSiHEARTSgSPADES",
    "nBACKdLACK JOKERlEIGHT OF CLUBSfDIAMONDSiHEARTSgSPADESpFIVE OF CLUBS",
    "fDIAMONDSiHEARTSgSPADESnOOLcUR OF CLUBSfDIAMONDSiHEARTSgSPADES",
    "oJACK OF CLUBSfDIAMONDSiHEARTSgSPADESoKING OF CLUBSfDIAMONDSiHEARTS",
    "gSPADESnNIGHT OF CLUBSfDIAMONDSiHEARTSgSPADESqNINE OF CLUBSfDIAMONDS",
    "iHEARTSgSPADESoQUEEN OF CLUBSfDIAMONDSiHEARTSgSPADESpRED JOKER",
    "jSEVEN OF CLUBSfDIAMONDSiHEARTSgSPADESoIX OF CLUBSfDIAMONDSiHEARTS",
    "gSPADESnTEN OF CLUBSfDIAMONDSiHEARTSgSPADESmHREE OF CLUBSfDIAMONDS",
    "iHEARTSgSPADESoRUMP-1a0b1b2b3b4b5b6b7b8b9c2a0b1c3b4b5b6b7b8b9",
    "gWO OF CLUBSfDIAMONDSiHEARTSgSPADESnWHITE JOKERwDbUaNGEReS SIGN",
    "a ABOVE EQUALS SIGNrIN LEFT HALF CIRCLEqRIGHT HALF CIRCLErTRIANGLE",
    "lWITH BLACK TRIANGLEoCIRCUMFLEX ACCENT ABOVExDOT BELOW",
    "jSMALL CIRCLE ABOVErUBSCRIPT TWOnTILDE ABOVEfBELOWw-MINUS SIGNmTO",
    "a FORM FIVEdOUReTHREEeWOnMbOCKET CALCULATORpLICE CARaS REVOLVING LIGHT",
    "uOFFICERmODLEeP DIRECTIONAL FORMATTINGkISOLATEuCORNfRTABLE STEREOnSEIDON",
    "fITION INDICATORpTAL HORNeMARKa FACEmBOXfT OF FOODiABLE WATER SYMBOLqTO",
    "dTED PLANTkUCHcLTRY LEGiND SIGNhRING LIQUIDlTING CAT FACEiFACE",
    "kWER ON SYMBOLh-OFF SYMBOLnSLEEP SYMBOLlYMBOLlRAYER BEADSkECEDES",
    "a ABOVE ALMOST EQUAL TOpEQUALS SIGNlNOT ALMOST EQUAL TOpEQUAL TO",
    "mSINGLE-LINE EQUALS SIGNlNOT EQUAL TOzfBUT NOT EQUIVALENT TOvOR EQUAL TO",
    "fIVALENT TOqUNDER RELATIONuGNANT MANdPERSONgWOMANlSCRIPTION TAKE",
    "nENTATION FORM FOR VERTICAL COLONdMMAfEM DASHgN DASHgXCLAMATION MARK",
    "qHORIZONTAL ELLIPSIStIDEOGRAPHIC COMMAfFULL STOPvLEFT ANGLE BRACKET",
    "nBLACK LENTICULAR BRACKETyCORNER BRACKETnURLY BRACKET",
    "nDOUBLE ANGLE BRACKETuPARENTHESISlSQUARE BRACKEToTORTOISE SHELL BRACKET",
    "wWHITE CORNER BRACKEToLENTICULAR BRACKETzdOW LINEiQUESTION MARK",
    "nRIGHT ANGLE BRACKETnBLACK LENTICULAR BRACKETyCORNER BRACKET",
    "nURLY BRACKETnDOUBLE ANGLE BRACKETuPARENTHESISlSQUARE BRACKET",
    "oTORTOISE SHELL BRACKETwWHITE CORNER BRACKEToLENTICULAR BRACKETeKCETz",
    "fSEMICOLONjTWO DOT LEADERoWAVY LOW LINEzqTZELeVIOUS PAGElIMEcNCEaSS",
    "eT SCREEN SYMBOLoERa ICONjVACY MESSAGEkTE USE ONEdTWOe-1b2lOBING CANE",
    "jHIBITED SIGNmJECTIVEhPERTY LINEjORTIONaAL TOmSERPINA",
    "jSALTER PAHLAVI FOUR DOTS WITH CROSSfDOTsLETTER ALEPHfBETHeDALETHgGIMEL",
    "fHEaTHeKAPHeLAMEDHgMEM-QOPHiNUNdPEcSADHEdMEKHfHINeTAWdWAW-AYIN-RESHnYODH",
    "eZAYINmNUMBER FOUReONEa HUNDREDlTENcHREEeWENTYeOkSECTION MARK",
    "mTURNED SECTION MARKzjU1b2bBLIC ADDRESS LOUDSPEAKERyNCTUATION SPACE",
    "lS ELEVATUS MARKtRPLE HEARTjSEdSHPINfT LITTER IN ITS PLACE SYMBOLz",
    "fQUADRANT LOWER LEFTeRIGHTlUPPER LEFTa AND LOWER LEFT AND LOWER RIGHT",
    "uRIGHTlUPPER RIGHT AND LOWER LEFTeRIGHTzlRIGHTa AND LOWER LEFT",
    "a AND LOWER RIGHTzvUPLE INTEGRAL OPERATORrPRIMEmRTER NOTE",
    "jTERNION INTEGRAL OPERATORzbESTION EXCLAMATION MARKqMARKfED EQUAL TO",
    "rINCUNXgOTATION MARKoRABBITa FACEjCCOONeING CARdMOTORCYCLE",
    "pDICAL SYMBOL BOTTOMrOa BUTTONhACTIVE SIGNoILWAY CARdTRACKkNaBOW",
    "eSED BACK OF HANDmCOMMAfDOTaTED INTERPOLATION MARKERzcFISTeHAND",
    "a WITH FINGERS SPLAYEDpPART BETWEEN MIDDLE AND RING FINGERSz",
    "vINTERPOLATION MARKERuMC SIGNgD SIGNgR SIGNhSQUARElMbTaIOdZOReECEIPT",
    "eORD SEPARATORnREATIONAL VEHICLErYCLED PAPER SYMBOL",
    "pING SYMBOL FOR GENERIC MATERIALSrTYPE-1 PLASTICSk2 PLASTICSk3 PLASTICS",
    "k4 PLASTICSk5 PLASTICSk6 PLASTICSk7 PLASTICSzjD APPLEfGIFT ENVELOPE",
    "pFERENCE MARKmGIONAL INDICATOR SYMBOL LETTER AbBbCbDbEbFbGbHbIbJbKbLbMbN",
    "bObPbQbRbSbTbUbVbWbXbYbZzfSTERED SIGNnJANG CONSONANT SIGN HbNaGcR",
    "qLETTER AbBAcCAcDAcGAcHAcJAcKAcLAcMAbBAdNAbDAcGAbGAdYAbJAePAcRAcSAcTAcWA",
    "cYAjSECTION MARKmVIRAMAfOWEL SIGN AIbUcEaAbUcIbObUrLIEVED FACE",
    "lMINDER RIBBONnPLACEMENT CHARACTERtSPONSEfTRICTED LEFT ENTRY-1b2sOOM",
    "gTURN LEFTeRIGHTfSYMBOLlVERSE CHECKER BOARDnINDEX",
    "fLIGHT FOUR POINTED PINWHEEL STARzfNE FEEDjSOLIDUSa OPERATOR",
    "iPRECEDING SUBSETqWITH HORIZONTAL STROKEz",
    "fTILDE OPERATOR ABOVE LEFTWARDS ARROWpRIGHTWARDS ARROWznD ANGLE",
    "a WITH UNDERBARtCOMMAfDOUBLE PRIMEa QUOTATION MARKuSTROKE NOT SIGN",
    "wEMPTY SETjFORKED PARAGRAPHOSsHAND WITH MIDDLE FINGER EXTENDEDzhNOT SIGN",
    "iPILCROW SIGNlRIMEfQUESTION MARKnRAISED HAND WITH FINGERS SPLAYEDz",
    "gIGHT ANGLEkOTATED FLORAL HEART BULLETzcSANS-SERIF CAPITAL LtEMICOLON",
    "jTHUMBS DOWN SIGNjUP SIGNnILDEa EQUALSlRIPLE PRIMEmVICTORY HAND",
    "sOLVING HEARTSpHINOCEROSjIaAL SIGNhBBONa ARROW DOWN LEFTeRIGHTkLEFT DOWN",
    "eUPhRIGHT DOWNeUPiUP LEFTeRIGHTtCE BALLeCRACKERkFLE",
    "dGHT AND LOWER ONE EIGHTH BLOCKwUPPER ONE EIGHTH BLOCKyGER BUBBLEjLE",
    "a BRACKETa WITH DOTqDOTTED SUBSTITUTION MARKERzbSUBSTITUTION MARKER",
    "tVARIANT WITH SQUAREtWITH ARCdDOWNWARDS ZIGZAG ARROWz",
    "hRC GREATER-THAN BRACKETwROW WITH CIRCLED PLUSmSMALL CIRCLE",
    "xBLACK LENTICULAR BRACKETsTORTOISE SHELL BRACKETzdCEILINGgORNER BRACKET",
    "nURLY BRACKETa LOWER HOOKkMIDDLE PIECEmUPPER HOOK",
    "yDOTTED SUBSTITUTION BRACKETzaUBLE ANGLE BRACKETmRROW WITH ROUNDED HEAD",
    "xPARENTHESISlQUOTATION MARKoWIGGLY FENCEtFISH TAILhVE EIGHTHS BLOCKrLOOR",
    "fHALF BLACK CIRCLEgSTARiOCKfFOLDERgMEDIUM SHADEmRUNNING MAN",
    "oND TELEPHONE RECEIVERxLOW PARAPHRASE BRACKET",
    "wNORMAL FACTOR SEMIDIRECT PRODUCTzhONE EIGHTH BLOCKmQUARTER BLOCK",
    "qPEN SQUARED DOTpUTER JOINkPARENTHESISa EXTENSIONjLOWER HOOKkUPPER HOOK",
    "wRAISED OMISSION BRACKETxS-SHAPED BAG DELIMITERvEMIDIRECT PRODUCT",
    "qVEN EIGHTHS BLOCKsIDEWAYS U BRACKETqNGLE QUOTATION MARKuPEAKER",
    "a WITH ONE SOUND WAVEoTHREE SOUND WAVESzcECH BUBBLEmQUARE BRACKET",
    "a EXTENSIONjLOWER CORNERmUPPER CORNERmWITH DOUBLE STROKEnQUILLfSTROKE",
    "gTICK IN BOTTOM CORNERnTOP CORNERsUNDERBARzcUBSTITUTION BRACKETuTACK",
    "dHIRD WHITE RIGHT POINTING INDEXzfOUGHT BUBBLEmREE EIGHTHS BLOCK",
    "nQUARTERS BLOCKtORTOISE SHELL BRACKETvRANSPOSITION BRACKETtIANGLE",
    "a ABOVE LEFT TRIANGLEwULAR ONE QUARTER BLOCKzdVERTICAL BAR WITH QUILL",
    "nOX LINErWHITE CORNER BRACKETnURLY BRACKETnLENTICULAR BRACKET",
    "sPARENTHESISlSQUARE BRACKEToTORTOISE SHELL BRACKETzcIGGLY FENCE",
    "n-FACING ARMENIAN ETERNITY SIGNwFISTeSVASTI SIGNa WITH DOTSz",
    "dHANDED INTERLACED PENTAGRAMzcPOINTING ANGLE BRACKET",
    "nCURVED ANGLE BRACKETuDOUBLE ANGLE QUOTATION MARKzcMAGNIFYING GLASSz",
    "aSHADED WHITE RIGHTWARDS ARROWzdIDE ARC CLOCKWISE ARROW",
    "yTO-LEFT EMBEDDINGjISOLATEhMARKeOVERRIDErHAND INTERIOR PRODUCT",
    "vWARDS ARROWa ABOVE ALMOST EQUAL TOpREVERSE ALMOST EQUAL TO",
    "pTILDE OPERATORwSHORT LEFTWARDS ARROWvTILDE OPERATOR",
    "tND UPPER AND LOWER ONE EIGHTH BLOCKzlFROM BARa TO BLACK DIAMONDz",
    "aOVER LEFTWARDS ARROWuTHROUGH GREATER-THANmSUPERSETiXiO BARcLACK DIAMOND",
    "qWITH CORNER DOWNWARDSqDOTTED STEMjUBLE VERTICAL STROKE",
    "wEQUILATERAL ARROWHEADvHOOKeLARGE TRIANGLE ARROWHEADxOOP",
    "eMEDIUM TRIANGLE ARROWHEADzaNOTCHED TAILmPLUS BELOW",
    "kSMALL EQUILATERAL ARROWHEADvTRIANGLE ARROWHEADxTROKEgTAIL",
    "a WITH DOUBLE VERTICAL STROKEwVERTICAL STROKEyIP DOWNWARDSjUPWARDS",
    "lVERTICAL STROKEv-TAILkBACK-TILTED SHADOWED WHITE ARROWzgLACK ARROW",
    "fCIRCLED WHITE ARROWyOTTOM SHADED WHITE ARROWzaCOMPRESSED ARROW",
    "qDASHED ARROWlOUBLE ARROWa FROM BARiWITH STROKEgVERTICAL STROKEv-TAIL",
    "kDASH ARROWrFINGER-POST ARROWqRONT-TILTED SHADOWED WHITE ARROWziHAND",
    "cRPOON OVER LEFTWARDS HARPOON",
    "wWITH BARB DOWN ABOVE LEFTWARDS HARPOON WITH BARB DOWNznBELOW LONG DASH",
    "pFROM BARiTO BARhWARDSjUP ABOVE LEFTWARDS HARPOON WITH BARB UPzeONG DASH",
    "jRIGHTWARDS HARPOON WITH BARB DOWNzoFROM BARiTO BARhWARDSyEAVY ARROW",
    "fCOMPRESSED ARROWwLEFT-SHADED WHITE ARROWxOPEN-HEADED ARROW",
    "rPAIRED ARROWSnQUADRUPLE ARROWpRIGHT-SHADED WHITE ARROWxOCKET",
    "gSANS-SERIF ARROWpQUARED ARROWkIGGLE ARROWoTOP SHADED WHITE ARROW",
    "vRIANGLE ARROWHEADk-HEADED ARROWa OVER LEFTWARDS TRIANGLE-HEADED ARROWz",
    "lTO BARgWITH BOLD SHAFTkDOUBLE HORIZONTAL STROKErVERTICAL STROKE",
    "wHEAVY SHAFTlLONG TIP DOWNWARDSjUPWARDSqMEDIUM SHAFTmNARROW SHAFT",
    "mVERY HEAVY SHAFTzcDASHED ARROWmPAIRED ARROWSzbPLE ARROWfDASH ARROW",
    "qWO HEADED ARROWn-HEADED ARROW FROM BARiWITH DOUBLE VERTICAL STROKEwTAIL",
    "a WITH DOUBLE VERTICAL STROKEwVERTICAL STROKEyRIANGLE ARROWHEADS",
    "tVERTICAL STROKEzbTRIPLE DASH ARROWzdWAVE ARROWjHITE ARROWa FROM WALL",
    "jWITHIN TRIANGLE ARROWHEADzvNGa ABOVEfBUOYeEQUAL TOiIN EQUAL TOlOPERATOR",
    "iPOINTgED PLANETjING BELLkSING DIAGONAL CROSSING FALLING DIAGONAL",
    "qSOUTH EAST ARROWzpLEbIbMbOcOASTED SWEET POTATOsBOT FACEiCKaET",
    "eLL OF PAPERjED-UP NEWSPAPERoR COASTERhSKATEiING ON THE FLOOR LAUGHINGz",
    "cMAN AS SIGNhCENTURIAL SIGNoDENARIUS SIGNmIMIDIA SEXTULA SIGN",
    "tUPONDIUS SIGNoNUMERAL EIGHTeLEVENgFIFTYa EARLY FORMkTHOUSANDmVE",
    "a HUNDREDhTHOUSANDmOUReNINEeONEa HUNDREDa THOUSANDqTHOUSANDa C D",
    "qREVERSED ONE HUNDREDuSEVENeIXa LATE FORMnTENa THOUSANDlHREEeWELVEeO",
    "lQUINARIUS SIGNoSEMUNCIA SIGNlSTERTIUS SIGNnXTANS SIGNiULA SIGN",
    "lILIQUA SIGNmUNCIA SIGNoOSTERfSEaTTEfTATED CAPITAL QjFLORAL HEART BULLET",
    "tHEAVY BLACK HEART BULLETyLIGHT FOUR POINTED BLACK CUSPz",
    "eWHITE FOUR POINTED CUSPzeUND PUSHPINhTARGEThED SYMBOL FOR CAIdFUcLU",
    "cSHOUcUANGXIiXItWBOATgSbUBLE SIGNiGBY FOOTBALLmLE-DELAYEDkMI DIGIT EIGHT",
    "fFIVEdOUReNINEeONEdSEVENeIXdTHREEeWOjFRACTION ONE HALFeQUARTERhTHIRD",
    "jTWO THIRDStNUMBER EIGHT HUNDREDiYgFIFTYdVE HUNDREDlORTYdUR HUNDRED",
    "mNINE HUNDREDiTYgONE HUNDREDlSEVEN HUNDREDiTYgIX HUNDREDiTYfTENcHIRTY",
    "eREE HUNDREDmWENTYeO HUNDREDvNIC ARLAUG SYMBOLnBELGTHOR SYMBOL",
    "pCROSS PUNCTUATIONrLETTER AC AdESCdLGIZ EOLHXkNSUZ A",
    "hBERKANAN BEORC BJARKAN ByCaALCdEALCdNcWEORTHhDaAGAZ DAEG DlOTTED-LbNbP",
    "iEaARcHWAZ EH EjNGcTHdFEHU FEOH FE FnRANKS CASKET ACbESCeEHcIScOSqGaAR",
    "cEBO GYFU GjRdHAEGL HfGLAZ HiICELANDIC-YRlNGaWAZfORcSAZ IS ISS ImWAZ EOH",
    "iJERAN JhKaAUN KcAfLAUKAZ LAGU LOGR LrONG-BRANCH-AR AEfHAGALL HiMADR M",
    "gOSS OfYRoMANNAZ MAN MmNAUDIZ NYD NAUD NrOaEbNbObPEN-PfS O",
    "dTHALAN ETHEL OpPERTHO PEORTH PpQbRAIDO RAD REID RqSHaORT-TWIG-AR A",
    "eBJARKAN BjHAGALL HiMADR MgNAUD NgOSS OfSOL SfTYR TfYR",
    "mIGEL LONG-BRANCH-SOL SwOWILO ShTANeTHURISAZ THURS THORNtIWAZ TIR TYR T",
    "pURUZ UR UjVbWaUNJO WYNN WmXbYaRcZiMULTIPLE PUNCTUATION",
    "uSINGLE PUNCTUATIONsTVIMADUR SYMBOLsNERcING SHIRT WITH SASHvPEE SIGN",
    "iSSIAN ASTROLOGICAL SYMBOL BINOVILEiNOVILEgQUINTILEiSENTAGONiTREDECILE",
    "jVIGINTILEzmS IN TRIANGLEmAFETY PINdVESTjGITTARIUSjILBOAT",
    "gKE BOTTLE AND CUPrLT SHAKERhIREeUTING FACElMARITAN ABBREVIATION MARK",
    "rLETTER ALAFeBAAcITdDALATfFIcGAMANfINbTbYcKAAFeLABATfMIMdNUNdQUFdRISH",
    "eSHANdINGAAThTAAFdITcSAADIYhYUTdZENkMARK DAGESHgEPENTHETIC YUToINa-ALAF",
    "hNEQUDAAhOCCLUSIONnODIFIER LETTER EPENTHETIC YUToIbSHORT A",
    "xPUNCTUATION AFSAAQfNGEDdNAAUfRKAANUgTMAAUgBAUdMELODIC QITSAnNEQUDAA",
    "hQITSAfSHIYYAALAAjOF MASHFAATmTURUeZAEFdIQAArVOWEL SIGN AaAcEbIbLONG AaA",
    "cEbIbUgOaVERLONG AaAlSHORT AgUKUNfUuNDWICH",
    "fS-SERIF HEAVY DOUBLE COMMA QUOTATION MARK ORNAMENTz",
    "eTURNED COMMA QUOTATION MARK ORNAMENTz",
    "sLOW DOUBLE COMMA QUOTATION MARK ORNAMENTzvINTERROBANG ORNAMENTzeRI",
    "cTELLITEa ANTENNAoURNeURASHTRA CONSONANT SIGN HAARUuDANDAeIGIT EIGHT",
    "fFIVEdOUReNINEeONEdSEVENeIXdTHREEeWOdZEROjOUBLE DANDAmLETTER AaAbIbUcBA",
    "bHAdCAbHAdDAbDAbHAdHAdEaEcGAbHAdHAcIaIcJAbHAdKAbHAdLAbLAdMAcNAbGAcNAcYA",
    "dOaOcPAbHAdRAcSAbHAcSAdTAbHAcTAbHAeUaUcVAbOCALIC LaLcRaRkYA",
    "jSIGN ANUSVARAiCANDRABINDUlVIRAMAeSARGAmVOWEL SIGN AAbIbUcEaEcIaIcOaOcU",
    "aUcVOCALIC LaLcRaRzdOPODgXOPHONEiCALESdRFdHOOLa SATCHELmIbOOTEReRPIONcUS",
    "gREENcWDRIVERiIPT CAPITAL BbEbFbHbIbLbMbPbRjLIGATURE ET ORNAMENTuSMALL E",
    "bGbLbOlOLLdUPLEgEALbTcCOND PLACE MEDALpTION SIGNiOReDNAdE-NO-EVIL MONKEY",
    "pDLINGgGMENTaED DIGIT EIGHTfFIVEdOUReNINEeONEdSEVENeIXdTHREEeWOdZERO",
    "sLFIEeMICOLONfDIRECT PRODUCT WITH BOTTOM CLOSEDziSEXTILEjPARATED SYMBOL",
    "oRIOUS FACE WITH SYMBOLS COVERING MOUTHzmVICE MARKkSAME DOThQUIQUADRATE",
    "mT MINUSfTRANSMIT STATEqWING NEEDLElXTILEgGCcHADOWED WHITE CIRCLE",
    "gLATIN CROSSlSTARqLLOW PAN OF FOODqMROCKfRADA ABBREVIATION SIGN",
    "rCONTINUATION SIGNrDANDAeIGIT EIGHTfFIVEdOUReNINEeONEdSEVENeIXdTHREEeWO",
    "dZEROjOUBLE DANDAmEKAMdXTRA SHORT VOWEL MARKwHEADSTROKEkLETTER AaAbIbU",
    "cBAbHAdCAbHAdDAbDAbHAdHAdEbGAbHAdHAcIaIcJAbHAdKAbHAdLAbLAdMAcNAbGAcNAcYA",
    "dObPAbHAdRAcSAbHAcSAdTAbHAcTAbHAeUaUcVAbOCALIC LaLcRaRkYAjOMcSANDHI MARK",
    "kECTION MARK-1b2mPARATORiIGN ANUSVARAhVAGRAHAiCANDRABINDU",
    "lINVERTED CANDRABINDUuJIHVAMULIYAlNUKTAfSIDDHAMhUPADHMANIYAlVIRAMAeSARGA",
    "lUTRA MARKkVOWEL MODIFIER MARKnSIGN AAbIbUcEbIaIcObPRISHTHAMATRA EpUaU",
    "cVOCALIC LaLcRaRzaKcVED ICEgIAN LETTER ADOcGEcHbIRcREbRAYeSHcWEdBIB",
    "dCHURCHgDEADeEARbTcGGcRRdFEEdGAGdHA-HAeUNGeIANcCEcFcJUDGEfKICKeLOLL",
    "eMEASUREgIMEeNUNdOAKcILcNbOZEdRbUTdPEEPeROAReSObUREeTHEYcIGHeOTdUPcVOW",
    "dWOEbOLeYEAbWdZOOqEEPdIELDdFT INcOUTgNTO SHRINEkP",
    "cOCKED FACE WITH EXPLODING HEADzeOTING STARkPPING BAGSeTROLLEY",
    "nRT BACKSLANTED SOUTH ARROWwENT ARROW POINTING DOWNWARDS THEN NORTH EAST",
    "zuDOWN TACKa WITH OVERBARwLEFT TACK",
    "jRIGHTWARDS ARROW ABOVE LEFTWARDS ARROWznSLANTED NORTH ARROWtUP TACK",
    "a ABOVE SHORT DOWN TACKvWITH UNDERBARwCAKE",
    "eHAND FORMAT CONTINUING OVERLAPsDOWN STEPjLETTER OVERLAPoUP STEPtS",
    "dULDERED OPEN BOXqWEReRIMPdUGdUFFLE PRODUCTnYcIaDDHAM DANDAeOUBLE DANDA",
    "mEND OF TEXT MARKqLETTER AaAbIbLTERNATE UkUcBAbHAdCAbHAdDAbDAbHAdHAdEbGA",
    "bHAdHAcIaIcJAbHAdKAbHAdLAcMAcNAbGAcNAcYAdObPAbHAdRAcSAbHAcSAdTAbHA",
    "bREE-CIRCLE ALTERNATE IxTAbHAdWO-CIRCLE ALTERNATE IaIxUaUcVAbOCALIC LaL",
    "cRaRkYAjREPETITION MARK-1b2b3rSECTION MARK DOUBLE RINGa WITH RAYS",
    "vWITH CIRCLES AND FOUR ENCLOSURESpRAYSeTWO ENCLOSURESzbDOUBLE CRESCENTS",
    "qQUADRUPLE CRESCENTStRAYS AND DOTTED CRESCENTSjDOUBLE CRESCENTS",
    "qTRIPLE CRESCENTSzhSEPTUPLE CRESCENTSsTRIDENT AND DOTTED CRESCENTS",
    "qU-SHAPED ORNAMENTSzcPLE CRESCENTSzhPARATOR BARdDOTmIGN ANUSVARA",
    "iCANDRABINDUlNUKTAfSIDDHAMhVIRAMAeSARGAmVOWEL SIGN AAbIbLTERNATE UaUlUcE",
    "bIaIcObUaUcVOCALIC RaRzbEWAYS BLACK DOWN POINTING INDEX",
    "tLEFT POINTING INDEXtRIGHT POINTING INDEXuUP POINTING INDEX",
    "xWHITE DOWN POINTING INDEXtLEFT POINTING INDEXtRIGHT POINTING INDEX",
    "uUP POINTING INDEXzfGN OF THE HORNSnWRITING AIR BLOW SMALL ROTATIONS",
    "qING OUTlSUCK SMALL ROTATIONSqING INoBREATH EXHALEgINHALElUSH BETWEEN",
    "hMULTIPLEiSINGLEmCHEEKS NEUTRALhPUFFEDgSUCKEDmOLONdMMA",
    "fDREAMY EYEBROWS DOWN NEUTRALmNEUTRAL DOWNeUPkUP NEUTRALz",
    "aYNAMIC ARROWHEAD LARGEfSMALLpEVERY OTHER TIMEqFASTeGRADUALhRELAXED",
    "hSIMULTANEOUSa ALTERNATINGxLOWeTENSEnEARSdXCITEMENTjYE BLINK MULTIPLE",
    "iSINGLEmWINKfBROWS STRAIGHT DOWNeNEUTRALhUPrGAZE-FLOORPLANE CURVED",
    "gSTRAIGHTa ALTERNATINGlDOUBLEzbWALLPLANE CIRCLINGhURVEDgSTRAIGHT",
    "a ALTERNATINGlDOUBLEzfLASHES DOWNeFLUTTERINGkUPjS CLOSEDgHALF CLOSED",
    "gOPENjOPENeSQUEEZEDiWIDE OPENfNING MOVEMENT",
    "wFACE DIRECTION POSITION NOSE FORWARD TILTINGpUP OR DOWNa TILTINGz",
    "vILL MODIFIER-2b3b4b5b6nNGERfLICK LARGE MULTIPLEiSINGLEmSEQUENTIAL",
    "jMALL MULTIPLEiSINGLEqOORPLANE SHOULDER HIP MOVEzcOREHEAD CONTACT",
    "hNEUTRALhWRINKLEDqULL STOPjGRASP BETWEENhMULTIPLEiSINGLEmHAIRcND-ANGLE",
    "a INDEXa MIDDLE LITTLEgRINGlRING LITTLEa OUTpTHUMBa INcOUTpLITTLE INDEX",
    "a THUMB INDEX THUMBa OUTzcUPjMIDDLE RING LITTLEa INcOUT",
    "wRING DOWN MIDDLE THUMB INDEX CROSSzeLITTLErCIRCLEa INDEXa BENTeHINGE",
    "fMIDDLEa CROSS LITTLEhEDhLITTLEgRINGeTHUMBmRING LITTLErLITTLE INDEXfUP",
    "jMIDDLE RING LITTLEa BENTqUPjRING LITTLErLAWa FOUR FINGERS CONJOINED",
    "wINDEX THUMB CURVE THUMB INSIDEzfMIDDLE RING LITTLE CONJOINEDa SIDEz",
    "iNO THUMBiTHUMB FORWARDhSIDEoUPa FIVE FINGERS SPREADa OPENyINDEX",
    "a RING LITTLElTHUMBa OPENqMIDDLE RING LITTLEsNO THUMBiOPENa NO THUMB",
    "iTHUMB FORWARDhSIDEpTHUMB FORWARDhSIDEmRLICUEa INDEX RING LITTLE ON",
    "uMIDDLE RING LITTLE ONvOPENnFISTa FOUR FINGERS CONJOINED BENTzcHEEL",
    "eINDEXa BENTa OVER MIDDLEqCUPPEDgHINGEDa LOWdMIDDLE UPa THUMB SIDEz",
    "cMIDDLEa BENTa THUMB STRAIGHTtCONJOINEDa CUPPEDa THUMB FORWARDuHINGED",
    "a THUMB SIDErINDEX BENTkMIDDLE BENTlTHUMB FORWARDhSIDEa BENTeCONJOINEDz",
    "eROSS LITTLEhEDa THUMB SIDEsHINGEDa SPREAD THUMB SIDEyLITTLE",
    "gRAISED KNUCKLESoINGa BENTeCONJOINEDoSTRAIGHT THUMB BENTtTHUMBa ANGLED",
    "a OUTkBENTeCIRCLEDgONJOINED HINGEDpUPPEDgHINGEDfOOKED",
    "mUP SPREAD THUMB FORWARDzfRAISED KNUCKLEnING LITTLE",
    "lTHUMB ANGLED IN MIDDLE UPmOUT MIDDLE UPuCIRCLEaD MIDDLE UP",
    "qUPPED MIDDLE UPoRLICUEfVE THUMB INSIDEgUNDERrFORWARD INDEX BENT",
    "eSTRAIGHTwHOOKaED MIDDLE HINGEDgUPqSIDEa BOTH BENTjINDEX BENTeHINGE",
    "lTHUMB BENTeCONJOINEDjDIAGONALzaUP MIDDLE HINGEDa THUMB CONJOINEDjSIDEz",
    "iLITTLE BENTeDOWNa OTHERS CIRCLEDoRIPPLE CURVEDgSTRAIGHTuINDEXa THUMB",
    "lRAISED KNUCKLEoTHUMBeOUCHES THUMBnUPjMIDDLE BENT OVER INDEXpDOWNeLITTLE",
    "gRAISED KNUCKLEnING LITTLElTHUMB ANGLED INDEX UPiOUT INDEX CROSSEDhUP",
    "tCIRCLED INDEX HINGEDgUPpUPPED INDEX UPpHOOKED INDEX UPpLITTLEmUP",
    "a THUMB SIDEuRING DOWNeINDEXfLITTLEgMIDDLEa CONJOINEDjRAISED KNUCKLES",
    "wRAISED KNUCKLEoTHUMBfUPhTHUMBa BETWEEN INDEX MIDDLEa STRAIGHT",
    "vMIDDLE RINGlRING LITTLEtFORWARDhHEELeOVER FOUR RAISED KNUCKLES",
    "uTWO FINGERSqSIDE BENTeCONJOINEDjDIAGONALnUNDER FOUR FINGERSmINDEX BENT",
    "kLITTLE UPjTHREE FINGERSmWO FINGERSzcLATa BETWEEN PALM FACINGS",
    "uFIVE FINGERS SPREADa BENTeFOUR BENTjHINGEDa NO THUMBiTHUMB SIDE",
    "rTHUMB FORWARDzhOUR FINGERSa BENTeCONJOINEDa SPLITpHINGEDtHEEL",
    "a FIVE FINGERS SPREADa BENTeFOUR BENTzeTHUMB SIDEpSPLIT CENTRE",
    "a THUMB SIDEa BENTwINDEX THUMB SIDEqLITTLEmTHUMB BENTeFORWARDhSIDEpHINGE",
    "a FIVE FINGERS SPREAD OPENxOUR FINGERS CONJOINEDwINDEXa HINGED",
    "gMIDDLE LITTLEgRINGa CONJOINEDvRING LITTLElTHUMBa LARGEfOPENeSIDEdMALL",
    "rLITTLEa INDEXa THUMBlTHUMBmMIDDLEa RING LITTLEsNO THUMBiOPENa NO THUMB",
    "iTHUMB FORWARDhSIDEpRINGa DOWN INDEX THUMB HOOK MIDDLEziSMALL",
    "fTHUMB BETWEEN MIDDLE RINGtSIDEa TOUCHING INDEXzfOOKa CURLICUE",
    "iINDEX RING LITTLE INcOUTdUNDERxMIDDLE RING LITTLE CONJOINEDa INcOUTz",
    "aTHUMBmRING THUMBpOVALa FIVE FINGERS SPREADtINDEXfLITTLE UPjNO THUMB",
    "iRING LITTLElTHUMB FORWARDhSIDEtEADa MOVEMENT CIRCLEh-FLOORPLANE CURVE",
    "fSTRAIGHTtWALLPLANE CURVEfSTRAIGHTiTILTxRIMiLIMB COMBINATIONlLENGTH-1b2",
    "b3b4b5b6b7lP LOWER OVER UPPERqUPPER OVER LOWERrS PRESSED TOGETHER",
    "uOCATION DEPTHfHEAD NECKhIGHTgLIMBS DIGITSmTORSOfWIDTHg-FLOORPLANE SPACE",
    "qWALLPLANE SPACEyMOUTH CLOSED CONTACThFORWARDhNEUTRALnORNERShFROWNa OPEN",
    "eWRINKLEDoKISSa FORWARDhWRINKLEDnOPEN CIRCLEgFORWARDhOVALa WRINKLEDiYAWN",
    "jRECTANGLEa WRINKLEDiYAWNoWRINKLEDnSMILEa OPENeWRINKLEDoTENSEa FORWARD",
    "hSUCKEDmWRINKLES DOUBLEgSINGLEtVEMENT-DIAGONAL AWAY LARGEaSThMEDIUM",
    "gSMALLkBETWEEN AWAY LARGEaSThMEDIUMgSMALLkTOWARDS LARGEaSThMEDIUMgSMALL",
    "vTOWARDS LARGEaSThMEDIUMgSMALL",
    "wFLOORPLANE ARM CIRCLE HITTING WALL LARGE DOUBLEgSINGLEmMEDIUM DOUBLE",
    "gSINGLEnSMALL DOUBLEgSINGLEzlBENDdOX LARGEfMEDIUMgSMALLjCHECK",
    "eORNER LARGEfMEDIUMgSMALLlROSSeURVE COMBINEDiHITTING CEILING LARGEfSMALL",
    "nFLOOR LARGEfSMALLtLARGEaSThMEDIUMgSMALLlDOUBLE ALTERNATINGa WRIST FLEX",
    "wSTRAIGHTiWRIST FLEXrFINGER CIRCLES HITTING WALL DOUBLEgSINGLEzbONTACT",
    "oHUMP HITTING CEILING LARGE DOUBLEgTRIPLEmSMALL DOUBLEgTRIPLE",
    "uFLOOR LARGE DOUBLEmSMALL DOUBLEmTRIPLE LARGE TRIPLEmSMALL TRIPLEziSMALL",
    "kJAWdLOOP HITTING CEILING LARGE DOUBLEgSINGLEmSMALL DOUBLEgSINGLE",
    "uFLOOR LARGE DOUBLEgSINGLEmSMALL DOUBLEgSINGLEzbSMALLkPEAKS LARGEfMEDIUM",
    "gSMALLlSHAKING PARALLELpINGLE STRAIGHT LARGEaSThMEDIUMgSMALLoWRIST FLEX",
    "rTRIPLE ALTERNATING MOVEMENTiWRIST FLEXwSTRAIGHT MOVEMENTrWRIST FLEX",
    "rWAVE HITTING CEILING LARGEfSMALLnFLOOR LARGEfSMALLtLARGEfSMALLeNAKE",
    "jRIST CIRCLE HITTING WALL DOUBLEgSINGLEzhZIGZAG LARGEfMEDIUMgSMALL",
    "xHINGE DOWN SEQUENTIALpSIDE TO SIDE SCISSORSvUP DOWN ALTERNATING LARGE",
    "fSMALLrLARGEfSMALLkSEQUENTIALtWALLPLANE ARM CIRCLE MEDIUM DOUBLEgSINGLE",
    "nSMALL DOUBLEgSINGLExBEND LARGEfMEDIUMgSMALLjOX LARGEfMEDIUMgSMALL",
    "jCHECK LARGEfMEDIUMgSMALLkORNER LARGEfMEDIUMgROTATIONiSMALLlROSS",
    "eURVE HALF-CIRCLE LARGEaSThMEDIUMgSMALLqITTING CHESTfFRONT WALL",
    "sQUARTER LARGEaSThMEDIUMgSMALLnTHEN STRAIGHTlREE-QUARTER CIRCLE MEDIUM",
    "gSMALLzcD CROSS MEDIUMgSMALLsDOUBLE ALTERNATINGa WRIST FLEXwSTRAIGHT",
    "iWRIST FLEXrFINGER CIRCLES DOUBLEgSINGLEnONTACToHUMP HITTING CHEST",
    "fFRONT WALLsLARGEfMEDIUMgSMALLkJAWdLOOP HITTING CHESTfFRONT WALLsLARGE",
    "fMEDIUMgSMALLa DOUBLErPEAKS LARGEfMEDIUMgSMALLlSHAKING",
    "gINGLE STRAIGHT LARGEaSThMEDIUMgSMALLoWRIST FLEXrTRIPLE ALTERNATING",
    "a WRIST FLEXwSTRAIGHT MOVEMENTrWRIST FLEXrWAVE CURVE DOUBLE LARGEfMEDIUM",
    "gSMALLmTRIPLE LARGEfMEDIUMgSMALLsDIAGONAL PATH LARGEfMEDIUMgSMALL",
    "tHITTING CHESTfFRONT WALLwRIST CIRCLE FRONT DOUBLEgSINGLEzaZIGZAG LARGE",
    "fMEDIUMgSMALLzgNECKdOSE CONTACThNEUTRALhWIGGLESgRINKLESnPARENTHESIS",
    "lROTATION MODIFIER-10b1b2b3b4b5b6c2b3b4b5b6b7b8b9",
    "l-FLOORPLANE ALTERNATINGa HITTING CEILINGhFLOORzaDOUBLEa HITTING CEILING",
    "hFLOORuSINGLEa HITTING CEILINGhFLOORzgWALLPLANE ALTERNATE",
    "bING HITTING CHESTfFRONT WALLzfDOUBLEa HITTING CHESTfFRONT WALLzaSINGLE",
    "a HITTING CHESTfFRONT WALLzsUB BETWEENhMULTIPLEiSINGLEkSEMICOLON",
    "iHOULDER HIP POSITIONSjSPINEjTILTING FROM WAISTz",
    "bQUEEZE FLICK ALTERNATINGrLARGE MULTIPLEiSINGLEmSEQUENTIALjMALL MULTIPLE",
    "iSINGLEtTRIKE BETWEENhMULTIPLEiSINGLEmURFACE BETWEENhSYMBOLSpTEETH",
    "a BITE LIPSjMOVEMENTiON LIPSa MOVEMENTnTONGUEa MOVEMENTwNSE CHEEKS HIGH",
    "eLOWdMIDDLEsONGUE CENTRE INSIDE MOUTHmSTICKING OUTtINSIDE MOUTH RELAXED",
    "uLICKING LIPSmMOVES AGAINST CHEEKtSTICKING OUT FARqTIP BETWEEN LIPS",
    "mTOUCHING INSIDE MOUTHzfRSO-FLOORPLANE TWISTINGtWALLPLANE CURVED BEND",
    "lSTRAIGHT STRETCHzfUCH BETWEENhMULTIPLEiSINGLE",
    "lRAVEL-FLOORPLANE ROTATION-FLOORPLANE ALTERNATINGlDOUBLEgSINGLE",
    "rWALLPLANE ALTERNATINGlDOUBLEgSINGLEzaSHAKING",
    "sWALLPLANE ARM SPIRAL DOUBLEgSINGLEgTRIPLE",
    "rROTATION-FLOORPLANE ALTERNATINGlDOUBLEgSINGLErWALLPLANE ALTERNATING",
    "lDOUBLEgSINGLEzaSHAKINGyUPPER BODY TILTING FROM HIP JOINTSz",
    "jWALLPLANE SHOULDER HIP MOVEzmLHOUETTE OF JAPAN",
    "rMILAR ABOVE GREATER-THAN ABOVE EQUALS SIGNzfLESS-THAN ABOVE EQUALS SIGN",
    "ziMINUS SIMILARnOR GREATER-THANmLESS-THANsNE WAVE",
    "gGLE CHARACTER INTRODUCERuGRAPHIC CHARACTER INTRODUCERz",
    "dHIGH-REVERSED-9 QUOTATION MARKzfLEFT-POINTING ANGLE QUOTATION MARKz",
    "iOW-9 QUOTATION MARKuRIGHT-POINTING ANGLE QUOTATION MARKzkSHIFT THREEeWO",
    "k-SHIFT-2b3lHALA ARCHAIC DIGIT EIGHTfFIVEdOUReNINEeONEdSEVENeIXdTHREEeWO",
    "jNUMBER EIGHTYgFIFTYeORTYfNINETYgONE HUNDREDhTHOUSANDmSEVENTYgIXTYfTEN",
    "cHIRTYfWENTYvLETTER AAYANNAgEEYANNAgYANNAgIYANNAgLPAPRAANA BAYANNA",
    "hCAYANNAhDAYANNAgDAYANNAiGAYANNAhJAYANNAhKAYANNAhPAYANNAhTAYANNAgTAYANNA",
    "sMBA BAYANNAlUYANNAgYANNAgDANTAJA LAYANNAhNAYANNAhSAYANNApEEYANNAgYANNA",
    "gFAYANNAhHAYANNAhIIYANNAgLUUYANNAgYANNAhRUUYANNAgYANNAhYANNA",
    "gKANTAJA NAASIKYAYAsMAHAAPRAANA BAYANNAhCAYANNAhDAYANNAgDAYANNAiGAYANNA",
    "hJAYANNAhKAYANNAhPAYANNAhTAYANNAgTAYANNAsYANNAgUURDHAJA LAYANNAhNAYANNA",
    "hSAYANNArOOYANNAgYANNAgRAYANNAhSANYAKA DAYANNAgDAYANNAiGAYANNAhJAYANNA",
    "pTAALUJA NAASIKYAYAkSANYOOGA NAAKSIKYAYAsYANNApUUYANNAgYANNAgVAYANNA",
    "hYAYANNAnITH DIGIT EIGHTfFIVEdOUReNINEeONEdSEVENeIXdTHREEeWOdZERO",
    "pPUNCTUATION KUNDDALIYAwSIGN AL-LAKUNAiNUSVARAYAkCANDRABINDUlVISARGAYA",
    "oVOWEL SIGN AELA-PILLAkDIGA AEDA-PILLAkGAETTA-PILLAkYANUKITTAlIS-PILLA",
    "iKOMBUVAhPAA-PILLAoGAETTA-PILLAkYANUKITTAlKETTI AEDA-PILLAkIS-PILLA",
    "iPAA-PILLAoOMBU DEKAfVAa HAA AELA-PILLAkDIGA AELA-PILLApGAYANUKITTAz",
    "pX PETALLED BLACK AND WHITE FLORETTEzhOINTED BLACK STARkPINWHEEL STAR",
    "nSTAR WITH MIDDLE DOTze-PER-EM SPACEnTEEN POINTED ASTERISKxKATEBOARD",
    "iI AND SKI BOOTnERdULLa AND CROSSBONESrNK",
    "eLANTED EQUAL TO OR GREATER-THANa WITH DOT INSIDEzdLESS-THAN",
    "a WITH DOT INSIDEzmNORTH ARROW WITH HOOKED HEADjRIZONTAL TAILz",
    "mVONIC ASTERISKpEDbEPING ACCOMMODATIONnFACEeSYMBOLkY FACEiUTH OR SPY",
    "lICE OF PIZZAlGHTLY FROWNING FACEnSMILING FACEtOPEbING LARGE ANDdOR",
    "nT MACHINEiHeMALL AIRPLANEhMPERSANDiSTERISKiBLUE DIAMONDmCOLONdMMA",
    "bERCIAL ATlNTAINS AS MEMBERjWITH OVERBAR",
    "hVERTICAL BAR AT END OF HORIZONTAL STROKEzzeDOLLAR SIGNlELEMENT OF",
    "a WITH OVERBARhVERTICAL BAR AT END OF HORIZONTAL STROKEzzfM DASH",
    "gQUALS SIGNkXCLAMATION MARKqFULL STOPjGREATER-THAN SIGNrHYPHEN-MINUS",
    "mIDEOGRAPHIC COMMArLEFT CURLY BRACKETnPARENTHESISlTORTOISE SHELL BRACKET",
    "zaSS-THAN SIGNoNUMBER SIGNlORANGE DIAMONDoPERCENT SIGNlLUS SIGN",
    "jQUESTION MARKnREVERSE SOLIDUSoIGHT CURLY BRACKETnPARENTHESIS",
    "lTORTOISE SHELL BRACKETzcOMAN NUMERAL EIGHTeLEVENgFIFTYdVEa HUNDREDlOUR",
    "eNINEeONEa HUNDREDhTHOUSANDmSEVENeIXdTENcHREEeWELVEeOrSEMICOLONjTILDE",
    "eWO DOTS OVER ONE DOT PUNCTUATIONziVEE WITH UNDERBARsER THAN",
    "a OR EQUAL TOvSH PRODUCTlILEbING CAT FACE WITH HEART-SHAPED EYES",
    "rOPEN MOUTHyFACE WITH HALOdEART-SHAPED EYESqORNSfOPEN MOUTH",
    "a AND COLD SWEATkSMILING EYESmTIGHTLY-CLOSED EYESzjSMILING EYES",
    "a AND HAND COVERING MOUTHtTHREE HEARTSzdUNGLASSESkTEARtRKING FACE",
    "lOKING SYMBOLnNAILcKEdEEZING FACElOW CAPPED MOUNTAINqBOARDERhFLAKEfMAN",
    "a WITHOUT SNOWtOaCCER BALLiKSdFT HYPHENgICE CREAMjSHELL FLOPPY DISKsBALL",
    "eWARE-FUNCTION SYMBOLwGDIAN COMBINING CURVE ABOVEfBELOWlDOT ABOVEfBELOW",
    "jHOOK ABOVEfBELOWkLONG HOOK BELOWpRESH BELOWkSTROKE BELOWmTWO DOTS ABOVE",
    "fBELOWyINDEPENDENT SHINqLETTER ALEPHeYINeBETHeFETHeGIMELfHEaTHeKAPH",
    "eLAMEDHfESHeMEMdNUNdPEcRESH-AYINjSADHEdMEKHfHINeTAWdWAWdYODHeZAYIN",
    "mNUMBER ONEa HUNDREDlTENcWENTYnPUNCTUATION CIRCLE WITH DOT",
    "pHALF CIRCLE WITH DOTuTWO CIRCLES WITH DOTSrVERTICAL BARSa WITH DOTSzuH",
    "bLID QUILT SQUARE ORNAMENTa IN BLACK SQUAREznUSa WITH OVERBARsM SIGN",
    "gON WITH RIGHTWARDS ARROW ABOVEzfRA SOMPENG DIGIT EIGHTfFIVEdOUReNINE",
    "eONEdSEVENeIXdTHREEeWOdZEROkLETTER AHcBAHdCAHdDAHdEEHcHcGAHdHAHdIHcJAH",
    "dKAHdLAHdMAEbHdNAHcGAHdYAHeOHcPAHdRAHdSAHdTAHdUHcVAHdYAHvS",
    "bUND RECORDING COPYRIGHTwTH EAST ARROWa AND SOUTH WEST ARROW",
    "uCROSSING NORTH EAST ARROWzaTO CORNERjWITH HOOKpBLACK ARROWlDOUBLE ARROW",
    "mPOINTING BUDdLEAFeVINE LEAFsSANS-SERIF ARROWqTRIANGLE-HEADED ARROW",
    "a TO BARzdWHITE ARROWqWEST ARROWa AND NORTH WEST ARROWuWITH HOOK",
    "pBLACK ARROWlDOUBLE ARROWmPOINTING BUDdLEAFeVINE LEAFsSANS-SERIF ARROW",
    "qTRIANGLE-HEADED ARROWa TO BARzdWHITE ARROW",
    "uYOMBO CLUSTER-INITIAL LETTER LAcRAcSAbHAzbFINAL CONSONANT SIGN -AcBbDbG",
    "bKbLbMbNaGcRbSaHxGEMINATION MARKpHEAD MARK WITH MOON AND SUNa AND FLAME",
    "fTRIPLE FLAMEztLETTER -AcAbBAbHAdCAbHAdDAbDAbHAdHAcZAdGAbHAdHAcJAbHAdKA",
    "bHAcSSAeLAcMAcNAbGAcNAcYAdPAbHAdRAcSAbHAcSAdTAbHAcSAbHAdTAbHAeVAcYAcZA",
    "bHAkMARK DOUBLE SHADlPLUTAfSHADeTSHEGkSIGN ANUSVARAiJIHVAMULIYA",
    "lUPADHMANIYAlVISARGAlUBJOINERjTERMINAL MARK-1b2pVOWEL LENGTH MARK",
    "lSIGN AIbUcEbIbOaEcUaEcVOCALIC LbRzcPaAaCEcGHETTIgRKLEaScING HEART",
    "nEAK-NO-EVIL MONKEYpERa WITH CANCELLATION STROKEtONE SOUND WAVE",
    "oTHREE SOUND WAVESzaING HEAD IN SILHOUETTEyECH BALLOONkDBOATgSMILO SIGN",
    "lHERICAL ANGLEa OPENING LEFTeUPyIDERa WEBhRAL CALENDAR PADmNOTE PAD",
    "iSHELLkLASHING SWEAT SYMBOLuONGEdOL OF THREADlNcRTS MEDALjUTING WHALE",
    "nQUARE A OVER MhARUdMbNPEAePAATOfRUHUAfUcBAARERUfRcEETAeIRUdORUTOfQ",
    "bUSSYERUiC OVER KGiALbPcCbDbMa CUBEDfSQUAREDjOaRPORATIONkUPdDAaASUeBbESI",
    "dJbLbMa CUBEDfSQUAREDjORUeEEKAAeRA NAME HEISEIgMEIZIfREIWAfSYOUWA",
    "gTAISYOUoGcSUKUUDOhVcFMbOOTcUR CORNERSmGALbNMAdRONeBbHZcIGAcNIIdRUDAAgPA",
    "cURAMUaTONiYcHAaITUeEKUTAARUhRUTUfGbIRAGANA HOKAmONbONbRUePaAcUARADDO",
    "gIITOeRANeZcIMAGE OFa OR EQUAL TOiNOT EQUAL TOxNaINGUeTIdUcK OHMeAaIRI",
    "dRATTOeORIIgBbCALdEESUeGbHZcIROaGURAMUgMEETORUhWATTOiKbLbMa CAPITALgUBED",
    "fSQUAREDjOOPOdRUNAfPAcTbUROONEeUZEIROiVbWbYURIIgLEFT OPEN BOX OPERATORvM",
    "bNbOGbZENGEgXcM CUBEDfOHMcVER Sa SQUAREDoSQUAREDiAaHHAdIKUROeRUdNSYON",
    "fRUKUfBa SMALLhEETORUfGAaTONgGbHZcIKURONfLbRIaBAARUiLbMa CUBEDfSQUARED",
    "jOLcPAcSbU AbFbGbLbMbSbVbWdVa MEGAgWa MEGAhNAaNOdFbMbOTTOeSbVbWcONSUdOMU",
    "dRIGINAL OFa OR EQUAL TOiNOT EQUAL TOzbVcPAa AMPSfASENTOfTUeCbEEZIdNIHI",
    "dSUdSOdFbHbIASUTORUhKObURUfMbOINTOeNDOdSITION INDICATORrPMcRbSbVbWcRAD",
    "a OVER Sa SQUAREDrEMUcNTOGENhIGHT OPEN BOX OPERATORvRAcTTORUgOOTdUPII",
    "dUBURUhSAIKURUfNTIIMUhENTIbOeIRINGUgRbVcTARGETfHZcONdUONdV OVER MiWATTO",
    "eBbITH BOTTOM HALF BLACKrCONTOURED OUTLINErDIAGONAL CROSSHATCH FILL",
    "yHORIZONTAL FILLpLEFT HALF BLACKoOWER LEFT DIAGONAL HALF BLACK",
    "yRIGHT DIAGONAL HALF BLACKzgORTHOGONAL CROSSHATCH FILLzbRIGHT HALF BLACK",
    "qTOP HALF BLACKoUPPER LEFT DIAGONAL HALF BLACKtTO LOWER RIGHT FILL",
    "yRIGHT DIAGONAL HALF BLACKtTO LOWER LEFT FILLzfVERTICAL FILLsYAADOcRU",
    "eUANfD ASTERISKiCJK UNIFIED IDEOGRAPH-4E00b9c2Dc8CcA4e518Dd21Dc4Dc72d3CC",
    "cF3d408c39d5B6d8F0d91Ac29dB57dDE6dF8Ce624Bc53c95d307c55d599cB0d620d708b9",
    "dE80dF14e7121d51Fc33d981dA7AdD42e89E3dCA9dD70e904Ad14DzaLbOOL",
    "eDOT OPERATORmEIGHT KhFALLING DIAGONAL SLASHvIVE POINT ONE",
    "nOUR DOT PUNCTUATIONpKfREEeHCbDRcI-RESfVcIDcKATAKANA DEcKOKOeSAkEY",
    "dLATIN CAPITAL LETTER AbBbCbDbEbFbGbHbIbJbKbLbMbNbObPbQbRbSbTbUbVbWbXbY",
    "bZqSMALL LETTER DtOGICAL ANDdORiSSLESSiMINUSeVcNEWcGcOK",
    "bNE HUNDRED TWENTY PuPLUSdPVdRISING DIAGONAL SLASHvSALTIREgD",
    "bECOND SCREENlVEN POINT ONEoHVcIXTY PgMALL CIRCLElOScQUAREfScTHREE D",
    "gIMESeWENTY-TWO POINT TWOsO KfUHDcP WITH EXCLAMATION MARKyVODcScWC",
    "gT BLACK RIGHTWARDS ARROWzaIDeS2b3bAcTaADIUMeFF OF AESCULAPIUSlHERMES",
    "mMPED ENVELOPEnNDING PERSONmR AND CRESCENTmEQUALSgOF DAVIDhPERATOR",
    "iWITH LEFT HALF BLACKpRIGHT HALF BLACKwT OF GUARDED AREAmHEADING",
    "hPROTECTED AREAoSELECTED AREAmTRINGgTEXTkTIONdUE OF LIBERTY",
    "pEAM LOCOMOTIVElING BOWLkNOGRAPHIC FULL STOPtTHOSCOPEjICK FIGURE",
    "a LEANING LEFTeRIGHTnWITH ARMS RAISEDlDRESSvOCK CHARTiPWATCH",
    "hRAIGHT RULERgNESSiWBERRYhESS OUTLINED WHITE STARxICTLY EQUIVALENT TO",
    "sNG TERMINATORpSbUDIO MICROPHONEoFFED FLATBREADoPAdXcUBaSCRIPT EIGHT",
    "eQUALS SIGNlFIVEdOUReLEFT PARENTHESISqMINUSfNINEeONEdPLUS SIGN",
    "jRIGHT PARENTHESISrSEVENeIXdTHREEeWOdZEROkET ABOVE RIGHTWARDS ARROW",
    "qSUBSETePERSEToOFa ABOVE ALMOST EQUAL TOpEQUALS SIGNlNOT EQUAL TO",
    "mTILDE OPERATORuOR EQUAL TOa WITH DOT ABOVEzbWITH NOT EQUAL TOuWITH DOT",
    "dMULTIPLICATION SIGN BELOWzaPLUS SIGN BELOWxTITUTEiCCEEDS",
    "a ABOVE ALMOST EQUAL TOpEQUALS SIGNlNOT ALMOST EQUAL TOpEQUAL TO",
    "mSINGLE-LINE EQUALS SIGNlNOT EQUAL TOzfBUT NOT EQUIVALENT TOvOR EQUAL TO",
    "fIVALENT TOqUNDER RELATIONvMMATION BOTTOMgTOPdWITH INTEGRALvN",
    "a BEHIND CLOUDmWITH FACEkDANESE AVAGRAHAiCONSONANT SIGN PAMINGKALhNYAKRA",
    "eIKUfSANGAN MAcWAzbDIGIT EIGHTfFIVEdOUReNINEeONEdSEVENeIXdTHREEeWOdZERO",
    "kLETTER AaEcBAbHAdCAcDAcEaUcFAbINAL KbMhGAcHAcIbJAcKAbHAdLAbEUdMAcNAbGA",
    "cYAdObPAcQAcRAbEUdSAbYAdTAcUbVAcWAcXAcYAcZAjPUNCTUATION BINDU BA SATANGA",
    "kCAKRAfDA SATANGAkKA SATANGAkLEU SATANGAlPANGLONGhURNAMAhSURYA",
    "xSIGN PAMAAEHfNGLAYARfWISADgYECEKiVIRAMAlVOWEL SIGN PAMEPETfNAELAENG",
    "hEULEUNGhGHULUfOLONGfYUKUzaFLOWERgRISEa OVER MOUNTAINS",
    "tSET OVER BUILDINGStPERHEROeSCRIPT EIGHTeQUALS SIGNlFIVEdOUR",
    "eLATIN SMALL LETTER IbNtEFT PARENTHESISqMINUSfNINEeONEdPLUS SIGN",
    "jRIGHT PARENTHESISrSEVENeIXdTHREEeWOdZEROkET ABOVE LEFTWARDS ARROW",
    "pSUBSETePERSEToBESIDE AND JOINED BY DASH WITH SUBSETzfSUBSETnOF",
    "a ABOVE ALMOST EQUAL TOpEQUALS SIGNlNOT EQUAL TOmTILDE OPERATOR",
    "uOR EQUAL TOa WITH DOT ABOVEzbWITH NOT EQUAL TOuPRECEDING SOLIDUS",
    "rWITH DOTdMULTIPLICATION SIGN BELOWzaPLUS SIGN BELOWyVILLAIN",
    "kRFACE INTEGRALmEReSHIcPENSION RAILWAYrWANbSH AMPERSAND ORNAMENTwIMMER",
    "fUNG DASHjYLOTI NAGRI LETTER AbBHOcOcCHOcOcDDHOcOcHOcOcEbGHOcOcHOcIbJHO",
    "cOcKHOcOcLOcMOcNOcObPHOcOcRObROdSOcTHOcObTHOcOdUiPOETRY MARK-1b2b3b4",
    "nSIGN ALTERNATE HASANTAqNUSVARAiDVISVARAiHASANTAmVOWEL SIGN AbEbIbOOcU",
    "xMBOL FOR ACKNOWLEDGElBACKSPACEiELLeCANCELeRRIAGE RETURN",
    "pDATA LINK ESCAPEpELETEa FORM TWOnVICE CONTROL FOUReONEdTHREEeWO",
    "sEND OF MEDIUMgTEXTdRANSMISSIONa BLOCKxQUIRYgSCAPEgFILE SEPARATOR",
    "nORM FEEDjGROUP SEPARATORpHORIZONTAL TABULATIONvLINE FEEDjMARKS CHAPTER",
    "nNEGATIVE ACKNOWLEDGEsWLINEgULLeRECORD SEPARATORqSAMARITAN SOURCE",
    "pHIFT INcOUTiPACEeTART OF HEADINGhTEXTmUBSTITUTEa FORM TWO",
    "sYNCHRONOUS IDLEqTYPE A ELECTRONICSsUNIT SEPARATORoVERTICAL TABULATIONz",
    "cMETRYgNaAGOGUEgCHRONOUS IDLEoRIAC ABBREVIATION MARKrBARREKH",
    "hCOLON SKEWED LEFTeRIGHTqNTRACTIONlDOTTED ZLAMA ANGULARhHORIZONTAL",
    "xEND OF PARAGRAPHpSASA ABOVEfBELOWlFEMININE DOTmHARKLEAN ASTERISCUS",
    "kMETOBELUSjOBELUSoBASA ABOVEfBELOWg-ESASA DOTTEDrORIZONTAL COLON",
    "qLETTER ALAPHfBETHeDALATHfOTLESS DALATH RISHtEbFINAL SEMKATHnGAMAL",
    "a GARSHUNIoHEaTHeKAPHeLAMADHgMALAYALAM BHAdJAcLLAbLAeNGAcNAbNAdYAdRAcSSA",
    "dTTAmIMdNUNdPEaRSIAN BHETHfDHALATHhGHAMALoQAPHeREVERSED PEkISHeSADHE",
    "eEMKATHgHINdOGDIAN FEcKHAPHfZHAINmUPERSCRIPT ALAPHrTAWcETHa GARSHUNInWAW",
    "dYUDHa HEhZAINlMUSICfOBLIQUE LINE ABOVEfBELOWsPTHAHA ABOVEfBELOWfDOTTED",
    "nQUSHSHAYAjRBASA ABOVEfBELOWkUKKAKHAhWAHAfSUBLINEAR COLONa SKEWED LEFT",
    "eRIGHTsFULL STOPrPRALINEAR COLONa SKEWED LEFTrFULL STOPvTHREE DOTS ABOVE",
    "fBELOWpWO VERTICAL DOTS ABOVEfBELOWxZQAPHA ABOVEfBELOWfDOTTEDqNGE"]

end Chip8.Text.CharacterName
